namespace TreeOutline

/-!
# The active kind

A rule is an object of handlers keyed by node kind, after a marker.  The active kind is the last
one named between the marker and the cursor.

* `capitalWord?` — one capital letter and the small letters and digits after it.
* `capitalWords` — as many such words as follow each other.
* `kindNames` — all longest runs of such words in a text, from left to right.
* `handlerText?` — the text between the marker and its next occurrence.
* `activeKindAt` — the last kind named before the cursor.
-/

/-- What stands before the handlers. -/
def handlerMarker : List Char := "visitor: \x7b".toList

/-- Whether the letter can begin a word. -/
def isCapital (c : Char) : Bool := 'A' ≤ c && c ≤ 'Z'

/-- Whether the character can continue a word. -/
def isWordTail (c : Char) : Bool := ('a' ≤ c && c ≤ 'z') || ('0' ≤ c && c ≤ '9')

/-- The word at the start of a text and what follows it.  A capital letter alone is no word. -/
def capitalWord? : List Char → Option (List Char × List Char)
  | [] => none
  | c :: rest =>
    if isCapital c ∧ rest.takeWhile isWordTail ≠ [] then
      some (c :: rest.takeWhile isWordTail, rest.dropWhile isWordTail)
    else none

/-- Taking a capitalised word takes at least one character. -/
theorem length_lt_of_capitalWord? {text word rest : List Char}
    (h : capitalWord? text = some (word, rest)) : rest.length < text.length := by
  cases text with
  | nil => simp [capitalWord?] at h
  | cons c tail =>
    simp only [capitalWord?] at h
    split at h
    · obtain ⟨-, rfl⟩ := Prod.mk.injEq .. ▸ Option.some.inj h
      exact Nat.lt_succ_of_le (List.dropWhile_suffix _).length_le
    · exact absurd h (by simp)

/-- The words at the start of a text, as one, and what follows them. -/
def capitalWords (text : List Char) : List Char × List Char :=
  match _h : capitalWord? text with
  | some (word, rest) =>
    let more := capitalWords rest
    (word ++ more.1, more.2)
  | none => ([], text)
termination_by text.length
decreasing_by exact length_lt_of_capitalWord? ‹_›

/-- Taking words never makes the text longer. -/
theorem capitalWords_length (text : List Char) :
    (capitalWords text).2.length ≤ text.length := by
  fun_induction capitalWords text with
  | case1 text word rest h more ih =>
    exact Nat.le_trans ih (Nat.le_of_lt (length_lt_of_capitalWord? h))
  | case2 => exact Nat.le_refl _

/-- Where a word has been taken, less text is left; reading names ends by this. -/
theorem capitalWords_length_lt {text : List Char} (h : (capitalWords text).1 ≠ []) :
    (capitalWords text).2.length < text.length := by
  fun_cases capitalWords text with
  | case1 word rest hw =>
    exact Nat.lt_of_le_of_lt (capitalWords_length rest) (length_lt_of_capitalWord? hw)
  | case2 hn => exact absurd (by rw [capitalWords]; split <;> simp_all) h

/-- All longest runs of words, from left to right. -/
def kindNames : List Char → List (List Char)
  | [] => []
  | c :: rest =>
    if (capitalWords (c :: rest)).1 = [] then kindNames rest
    else (capitalWords (c :: rest)).1 :: kindNames (capitalWords (c :: rest)).2
termination_by text => text.length
decreasing_by
  · exact Nat.lt_succ_self _
  · exact capitalWords_length_lt ‹_›

/-- The text before and after the first occurrence of `marker`. -/
def cutAt (marker : List Char) : List Char → Option (List Char × List Char)
  | [] => if marker = [] then some ([], []) else none
  | c :: rest =>
    if marker.isPrefixOf (c :: rest) then some ([], (c :: rest).drop marker.length)
    else (cutAt marker rest).map fun (before, after) => (c :: before, after)

/-- The text after the marker, up to its next occurrence. -/
def handlerText? (text : List Char) : Option (List Char) := do
  let (_, after) ← cutAt handlerMarker text
  match cutAt handlerMarker after with
  | some (between, _) => some between
  | none => some after

/-- The last kind named between the marker and the cursor, which stands `offset` characters into
the rule or at its end. -/
def activeKindAt (rule : String) (offset : Nat) : Option String := do
  let handlers ← handlerText? (rule.toList.take offset)
  let name ← (kindNames handlers).getLast?
  some (String.ofList name)

end TreeOutline
