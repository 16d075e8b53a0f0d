import TreeOutline.Text.Table.Grouping

namespace TreeOutline

/-!
# Characters as they are seen

What a reader takes for one character may be written with several: a letter and its marks, a
syllable, a flag, a family joined from its members.

* `GroupRole`, `groupRole` — the part that a character plays in such groups.
* `goesOn` — whether a group goes on with a character.
* `clusters` — a text as groups; `clusters_flatten` — nothing is lost.
-/

/-- Joins the pictures around it. -/
def joiner : Char := '\u200d'

/-- Separates what would be joined. -/
def nonJoiner : Char := '\u200c'

/-- The parts of a syllable that is written in a block: leading letters, vowels, final letters, and
whole syllables without and with a final letter. -/
inductive SyllablePart where
  | leading
  | vowel
  | final
  | open
  | closed
deriving DecidableEq, Repr

/-- The part of a syllable that a character is. -/
def syllablePart (c : Char) : Option SyllablePart :=
  let n := c.toNat
  if n < 0x1100 then none
  else if n ≤ 0x115F ∨ (0xA960 ≤ n ∧ n ≤ 0xA97C) then some .leading
  else if n ≤ 0x11A7 ∨ (0xD7B0 ≤ n ∧ n ≤ 0xD7C6) ∨ n = 0x16D63 ∨ (0x16D67 ≤ n ∧ n ≤ 0x16D6A) then
    some .vowel
  else if n ≤ 0x11FF ∨ (0xD7CB ≤ n ∧ n ≤ 0xD7FB) then some .final
  else if 0xAC00 ≤ n ∧ n ≤ 0xD7A3 then
    (if (n - 0xAC00) % 28 = 0 then some .open else some .closed)
  else none

/-- Whether two neighbouring parts belong to one syllable. -/
def sameSyllable : SyllablePart → SyllablePart → Bool
  | .leading, .leading | .leading, .vowel | .leading, .open | .leading, .closed => true
  | .open, .vowel | .open, .final | .vowel, .vowel | .vowel, .final => true
  | .closed, .final | .final, .final => true
  | _, _ => false

/-- The part that a character plays in groups. -/
inductive GroupRole where
  | carriageReturn
  | lineFeed
  /-- Stands alone. -/
  | control
  /-- Extends what is before it. -/
  | extend
  | joiner
  /-- Stands in pairs for a flag. -/
  | flagLetter
  /-- Belongs to what is after it. -/
  | leading
  /-- Belongs to what is before it and takes a place of its own. -/
  | spacing
  | syllable (part : SyllablePart)
  /-- Follows a consonant that a linker joins to it. -/
  | consonant
  /-- Follows a picture and a joiner. -/
  | picture
  | plain
deriving DecidableEq, Repr

/-- The part that a character plays. -/
def groupRole (c : Char) : GroupRole :=
  if c = '\r' then .carriageReturn
  else if c = '\n' then .lineFeed
  else if c = joiner then .joiner
  else if inRanges controlRanges c then .control
  else if inRanges extendRanges c then .extend
  else if inRanges pictureRanges c then .picture
  else if c.toNat < 0x300 then .plain
  else if inRanges spacingRanges c then .spacing
  else if inRanges leadingRanges c then .leading
  else if inRanges consonantRanges c then .consonant
  else if 0x1F1E6 ≤ c.toNat ∧ c.toNat ≤ 0x1F1FF then .flagLetter
  else match syllablePart c with
    | some part => .syllable part
    | none => .plain

/-- Whether the text that ends, read backwards, with `group` has a consonant and a sign that joins
it to the next one, with only marks between and after them. -/
def awaitsConsonant (group : List Char) : Bool :=
  let between (c : Char) : Bool :=
    c == joiner || (c != nonJoiner && inRanges extendRanges c)
  ((group.dropWhile between).head?.any (inRanges consonantRanges)) &&
    (group.takeWhile between).any (inRanges linkerRanges)

/-- Whether the text that ends, read backwards, with `group` has a picture with only marks after
it. -/
def endsWithPicture (group : List Char) : Bool :=
  (group.dropWhile (groupRole · = .extend)).head?.any (groupRole · = .picture)

/-- Whether a group that ends, read backwards, with `last` and `before` goes on with `c`. -/
def goesOn (last : Char) (before : List Char) (c : Char) : Bool :=
  match groupRole last, groupRole c with
  | .carriageReturn, .lineFeed => true
  | .carriageReturn, _ | .lineFeed, _ | .control, _ => false
  | _, .carriageReturn | _, .lineFeed | _, .control => false
  | _, .extend | _, .joiner | _, .spacing | .leading, _ => true
  | .syllable part, .syllable next => sameSyllable part next
  | _, .consonant => awaitsConsonant (last :: before)
  | .joiner, .picture => endsWithPicture before
  | .flagLetter, .flagLetter =>
    (before.takeWhile (groupRole · = .flagLetter)).length % 2 = 0
  | _, _ => false

/-- The groups of a text, given the one in progress read backwards. -/
def clustersFrom : (group : List Char) → List Char → List (List Char)
  | [], [] => []
  | group, [] => [group.reverse]
  | [], c :: rest => clustersFrom [c] rest
  | last :: before, c :: rest =>
    if goesOn last before c then clustersFrom (c :: last :: before) rest
    else (last :: before).reverse :: clustersFrom [c] rest

/-- A text as groups of characters that are seen as one. -/
def clusters (text : List Char) : List (List Char) := clustersFrom [] text

/-- Clusters joined together are the text again, behind the group that is still open. -/
theorem clustersFrom_flatten (group text : List Char) :
    (clustersFrom group text).flatten = group.reverse ++ text := by
  induction text generalizing group with
  | nil => cases group <;> simp [clustersFrom]
  | cons c rest ih =>
    cases group with
    | nil => simp [clustersFrom, ih]
    | cons last before => rw [clustersFrom]; split <;> simp [ih]

/-- Grouping loses nothing. -/
theorem clusters_flatten (text : List Char) : (clusters text).flatten = text := by
  simp [clusters, clustersFrom_flatten]

end TreeOutline
