import TreeOutline.Text.Cluster
import TreeOutline.Text.Table.Columns

namespace TreeOutline

/-!
# How many columns a character takes

Most characters take one column, those of East Asia two and marks none. A picture changes its
width with what follows it in its group: a request for its coloured or plain form, a tone of skin,
or a joiner and another picture.

* `charColumns` — the columns of a character on its own.
* `Following` — what stands right of a character, as far as it matters; `Following.add` — one
  more character to the left of it, and the columns that it adds.
* `columns` — the columns of a group.
-/

/-- Asks for the coloured form of the picture before it. -/
def colourSelector : Char := '\ufe0f'

/-- Asks for the plain form of the picture before it. -/
def plainSelector : Char := '\ufe0e'

/-- Puts the character before it on a key. -/
def keycap : Char := '\u20e3'

/-- Writes the Khmer letter after it below the one before it. -/
def coeng : Char := '\u17d2'

/-- Changes the skin in the picture before it. -/
def isSkinTone (c : Char) : Bool := 0x1F3FB ≤ c.toNat && c.toNat ≤ 0x1F3FF

/-- The columns of a character on its own. -/
def charColumns (c : Char) : Nat :=
  if c.toNat ≤ 0xA0 then 1
  else if c.toNat = 0x17A4 then 2
  else if c.toNat = 0x17D8 then 3
  else if inRanges emptyRanges c then 0
  else if inRanges wideRanges c then 2
  else 1

/-- What stands right of a character, as far as it changes the character's width. -/
inductive Following where
  /-- Nothing that matters. -/
  | nothing
  | lineFeed
  /-- A request for the coloured form. -/
  | coloured
  /-- A request for the plain form. -/
  | plain
  | skinTone
  /-- A picture in its coloured form. -/
  | picture
  /-- A joiner before such a picture. -/
  | joined
  /-- A request for the coloured form before that. -/
  | joinedColoured
  /-- A key before a joined picture. -/
  | joinedKey
  /-- A request for the coloured form before that. -/
  | joinedKeyColoured
  /-- The last `count` letters of a tag before a joined picture. -/
  | tagLetters (count : Nat)
  /-- Digits before the end of such a tag. -/
  | tagDigits (count : Nat)
  /-- A Khmer letter that can be written below another. -/
  | subscript
deriving DecidableEq, Repr

/-- Letters inside tags. -/
def isTagLetter (c : Char) : Bool := 0xE0061 ≤ c.toNat && c.toNat ≤ 0xE007A

/-- Digits inside tags. -/
def isTagDigit (c : Char) : Bool := 0xE0030 ≤ c.toNat && c.toNat ≤ 0xE0039

/-- Marks between the letters of a ligature that do not part it. -/
def isTransparent (c : Char) : Bool :=
  inRanges [(0x34F, 0x34F), (0x17B4, 0x17B5), (0x180B, 0x180D), (0x180F, 0x180F),
    (0x200D, 0x200D), (0xFE00, 0xFE0F), (0xE0100, 0xE01EF)] c

/-- Whether the plain form of a picture is narrower than its coloured one: not so for squared
ideographs. -/
def hasNarrowForm (c : Char) : Bool :=
  inRanges selectableRanges c && inRanges colouredRanges c &&
    !(0x1F200 ≤ c.toNat && c.toNat ≤ 0x1F2FF)

namespace Following

/-- What a character is to the one left of it. -/
def ofChar (c : Char) : Following :=
  if c = '\n' then .lineFeed
  else if c.toNat ≤ 0xA0 then .nothing
  else if c = colourSelector then .coloured
  else if c = plainSelector then .plain
  else if isSkinTone c then .skinTone
  else if inRanges colouredRanges c then .picture
  else if inRanges subscriptRanges c then .subscript
  else .nothing

/-- A character without regard to what follows it. -/
def alone (c : Char) : Int × Following := (charColumns c, ofChar c)

/-- What follows once a request for the coloured form is read. -/
def withColour : Following → Following
  | .joined => .joinedColoured
  | .joinedKey => .joinedKeyColoured
  | .subscript => .subscript
  | _ => .coloured

/-- A character before a picture that a joiner leads: what is joined adds nothing to the width. -/
def addJoined (c : Char) : Int × Following :=
  if c = keycap then (0, .joinedKey)
  else if isSkinTone c then (0, .skinTone)
  else if c.toNat = 0xE007F then (0, .tagLetters 0)
  else if inRanges colouredRanges c then (0, .picture)
  else alone c

/-- A character before the last `count` letters of a tag. -/
def addTagLetter (count : Nat) (c : Char) : Int × Following :=
  if isTagLetter c ∧ count < 6 then (0, .tagLetters (count + 1))
  else if isTagDigit c ∧ count ≤ 4 then (0, .tagDigits 1)
  else if c.toNat = 0x1F3F4 ∧ 3 ≤ count then (0, .picture)
  else alone c

/-- A character before the digits of a tag. -/
def addTagDigit (count : Nat) (c : Char) : Int × Following :=
  if isTagDigit c ∧ count < 3 then (0, .tagDigits (count + 1))
  else if c.toNat = 0x1F3F4 ∧ count = 3 then (0, .picture)
  else alone c

/-- One more character to the left: the columns that it adds, and what now follows. -/
def add (following : Following) (c : Char) : Int × Following :=
  -- the text is read from its end, so a selector is met before the character it selects
  if c = colourSelector then (0, following.withColour)
  else if c = plainSelector then
    (0, if following = .subscript then .subscript else .plain)
  else match following with
  | .lineFeed => if c = '\r' then (0, .nothing) else alone c
  | .coloured => if inRanges selectableRanges c then (2, .picture) else alone c
  | .joinedColoured | .joinedKeyColoured =>
    if inRanges selectableRanges c then (0, .picture) else alone c
  | .plain => if hasNarrowForm c then (1, .nothing) else alone c
  | .skinTone =>
    if inRanges tonedRanges c then (0, .picture)
    else if c = joiner then (0, .joined)
    else alone c
  | .picture => if c = joiner then (0, .joined) else alone c
  | .joined => addJoined c
  | .tagLetters count => addTagLetter count c
  | .tagDigits count => addTagDigit count c
  | .subscript =>
    if c = coeng then (-1, .nothing)
    else if isTransparent c then (0, .subscript)
    else alone c
  | .joinedKey | .nothing => alone c

end Following

/-- The columns of a group. -/
def columns (group : List Char) : Nat :=
  let (count, _) := group.foldr (fun c (count, following) =>
    let (more, now) := Following.add following c
    (count + more, now)) ((0 : Int), Following.nothing)
  count.toNat

/-- Nothing takes no column. -/
@[simp] theorem columns_nil : columns [] = 0 := rfl

end TreeOutline
