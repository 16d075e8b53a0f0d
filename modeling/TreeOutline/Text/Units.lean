namespace TreeOutline

/-!
# Offsets in UTF-16 units

Parsers count offsets in UTF-16 code units, in which a character beyond the first plane takes two.

* `unitWidth` — the number of units of a character; `unitCount` — of a text.
* `seekUnits` — how many characters start before a unit offset.
* `snippet` — the characters from one unit offset up to another.
* `seekBytes`, `byteRange` — the byte indexes of unit offsets, and those that a snippet is cut at.
-/

/-- The number of UTF-16 units of a character. -/
def unitWidth (c : Char) : Nat := if c.toNat < 0x10000 then 1 else 2

/-- The number of UTF-16 units of a text. -/
def unitCount : (text : List Char) → Nat
  | [] => 0
  | c :: text => unitWidth c + unitCount text

@[simp] theorem unitCount_nil : unitCount [] = 0 := rfl

@[simp] theorem unitCount_cons (c : Char) (text : List Char) :
    unitCount (c :: text) = unitWidth c + unitCount text := rfl

/-- Every character takes at least one unit. -/
theorem unitWidth_pos (c : Char) : 0 < unitWidth c := by
  unfold unitWidth; split <;> omega

/-- The number of characters in front of the first one that starts at or after the offset
`units`; an offset inside a character moves to the next one.  Past the end of the text there is
no such place, at its end there is. -/
def seekUnits : (text : List Char) → (units : Nat) → Option Nat
  | _, 0 => some 0
  | [], _ + 1 => none
  | c :: text, units => (seekUnits text (units - unitWidth c)).map (· + 1)

@[simp] theorem seekUnits_zero (text : List Char) : seekUnits text 0 = some 0 := by
  cases text <;> rfl

/-- The characters of `source` from unit offset `first` up to `last`.  The end is clamped to the
text; there is no snippet when an offset is missing, when the offsets are in the wrong order, and
when the first lies past the end. -/
def snippet (source : List Char) (first last : Option Nat) : Option (List Char) := do
  let first ← first
  let last ← last
  if last < first then none
  else
    let start ← seekUnits source first
    let stop := (seekUnits source last).getD source.length
    some ((source.take stop).drop start)

/-- The byte index of the first character that starts at or after the unit offset `units`, in a text
that starts at a byte index and a unit offset of its own. -/
def seekBytes (units : Nat) : (index offset : Nat) → List Char → Option Nat
  | index, offset, [] => if units ≤ offset then some index else none
  | index, offset, c :: text =>
    if units ≤ offset then some index
    else seekBytes units (index + c.utf8Size) (offset + unitWidth c) text

/-- The byte indexes between which the snippet of a range is cut out of a text.  There are none when
the range is out of order or starts past the end; its end is clamped. -/
def byteRange (source : String) (first last : Nat) : Option (Nat × Nat) :=
  if last < first then none
  else (seekBytes first 0 0 source.toList).map fun start =>
    (start, (seekBytes last 0 0 source.toList).getD source.utf8ByteSize)

end TreeOutline
