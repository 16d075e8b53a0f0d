namespace TreeOutline

/-!
# Bytes and characters

* `encodeChar`, `encodeText` — the bytes of a text.
* `decodeNext` — the character at the start of some bytes, or how many bytes of it are wrong.
* `decodeText?` — the text of bytes that are all right.
* `decodeLossy` — a text for any bytes: what is wrong becomes the replacement character.
-/

/-- A sequence of bytes. -/
abbrev Bytes := List UInt8

/-- The bytes of a character. -/
def encodeChar (c : Char) : Bytes :=
  let n := c.toNat
  let tail (unit : Nat) : UInt8 := UInt8.ofNat (0x80 + n / unit % 0x40)
  if n < 0x80 then [UInt8.ofNat n]
  else if n < 0x800 then [UInt8.ofNat (0xC0 + n / 0x40), tail 1]
  else if n < 0x10000 then [UInt8.ofNat (0xE0 + n / 0x1000), tail 0x40, tail 1]
  else [UInt8.ofNat (0xF0 + n / 0x40000), tail 0x1000, tail 0x40, tail 1]

/-- The bytes of a text. -/
def encodeText (s : String) : Bytes := s.toList.flatMap encodeChar

/-- What stands for bytes that are no character. -/
def replacement : Char := '\ufffd'

/-- Which bytes may follow a first byte, and how many in all; the first of them is restricted so
that no character has two spellings and none lies outside the range. -/
def sequenceShape (first : UInt8) : Option (Nat × Nat × Nat) :=
  let n := first.toNat
  if 0xC2 ≤ n ∧ n ≤ 0xDF then some (1, 0x80, 0xBF)
  else if n = 0xE0 then some (2, 0xA0, 0xBF)
  else if n = 0xED then some (2, 0x80, 0x9F)
  else if 0xE1 ≤ n ∧ n ≤ 0xEF then some (2, 0x80, 0xBF)
  else if n = 0xF0 then some (3, 0x90, 0xBF)
  else if 0xF1 ≤ n ∧ n ≤ 0xF3 then some (3, 0x80, 0xBF)
  else if n = 0xF4 then some (3, 0x80, 0x8F)
  else none

/-- The continuation bytes at the start, at most `count`; the first lies between the bounds. -/
def followers (count low high : Nat) : Bytes → Bytes
  | [] => []
  | b :: rest =>
    match count with
    | 0 => []
    | count + 1 =>
      if low ≤ b.toNat ∧ b.toNat ≤ high then b :: followers count 0x80 0xBF rest else []

/-- The character of a first byte and its followers. -/
def combine (first : UInt8) (tail : Bytes) : Char :=
  let lead := first.toNat % Nat.pow 2 (6 - tail.length)
  Char.ofNat (tail.foldl (fun n b => n * 0x40 + b.toNat % 0x40) lead)

/-- The character at the start and the number of bytes after its first, or `none` and how many
bytes after the first belong to what is wrong. -/
def decodeNext (first : UInt8) (rest : Bytes) : Option Char × Nat :=
  if first.toNat < 0x80 then (some (Char.ofNat first.toNat), 0)
  else
    match sequenceShape first with
    | none => (none, 0)
    | some (count, low, high) =>
      let tail := followers count low high rest
      if tail.length = count then (some (combine first tail), count) else (none, tail.length)

/-- The characters of some bytes, with `none` for each run that is wrong. -/
def decodeAll : Bytes → List (Option Char)
  | [] => []
  | first :: rest =>
    (decodeNext first rest).1 :: decodeAll (rest.drop (decodeNext first rest).2)
termination_by bytes => bytes.length
decreasing_by simp only [List.length_drop, List.length_cons]; omega

/-- The text of some bytes, if they are one. -/
def decodeText? (bytes : Bytes) : Option String :=
  ((decodeAll bytes).mapM id).map String.ofList

/-- The text of some bytes with a replacement character for each run that is wrong. -/
def decodeLossy (bytes : Bytes) : String :=
  String.ofList ((decodeAll bytes).map fun c => c.getD replacement)

end TreeOutline
