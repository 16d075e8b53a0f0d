namespace TreeOutline

/-!
# Patterns for whole texts

* `Shell.Letter` — a character of a word, and whether it was quoted.
* `Shell.Glob` — a pattern by its parts; `Glob.ofLetters` reads it.
* `Glob.accepts` — whether a pattern matches a text as a whole.
* `Glob.accepts_append_iff`, `accepts_quoted_iff` — patterns in a row match texts in a row, and a
  quoted word matches itself.
* `Glob.trim` — a text without what a pattern matches at one of its ends; `trim_eq` — what is cut
  off.
-/

namespace Shell

/-- A character, and whether it was quoted, so that it stands for itself. -/
abbrev Letter := Char × Bool

/-- A part of a pattern. -/
inductive Glob where
  | letter (c : Char)
  | anyLetter
  | anyText
  | oneOf (excluded : Bool) (members : List (Char × Char))
deriving DecidableEq, Repr

namespace Glob

/-- The ranges that a named class of characters has. -/
def classRanges : String → List (Char × Char)
  | "alpha" => [('a', 'z'), ('A', 'Z')]
  | "digit" => [('0', '9')]
  | "alnum" => [('a', 'z'), ('A', 'Z'), ('0', '9')]
  | "upper" => [('A', 'Z')]
  | "lower" => [('a', 'z')]
  | "space" => [('\t', '\r'), (' ', ' ')]
  | "blank" => [('\t', '\t'), (' ', ' ')]
  | "punct" => [('!', '/'), (':', '@'), ('[', '\x60'), ('\x7b', '~')]
  | "xdigit" => [('0', '9'), ('a', 'f'), ('A', 'F')]
  | _ => []

/-- The members of a set in brackets up to the closing one, and the rest.  A closing bracket that
comes first is a member. -/
def members? : (fuel : Nat) → (first : Bool) → List Letter →
    Option (List (Char × Char) × List Letter)
  | 0, _, _ => none
  | fuel + 1, first, letters =>
    match letters with
    | [] => none
    | ('[', false) :: (':', false) :: rest => do
      let name := (rest.takeWhile (·.1 ≠ ':')).map (·.1)
      let (more, rest) ← members? fuel false (rest.drop (name.length + 2))
      some (classRanges (String.ofList name) ++ more, rest)
    | (low, quoted) :: rest =>
      if low = ']' ∧ ¬ quoted ∧ ¬ first then some ([], rest)
      else
        match rest with
        | ('-', false) :: (high, highQuoted) :: rest =>
          if high = ']' ∧ ¬ highQuoted then some ([(low, low), ('-', '-')], rest)
          else do
            let (more, rest) ← members? fuel false rest
            some ((low, high) :: more, rest)
        | rest => do
          let (more, rest) ← members? fuel false rest
          some ((low, low) :: more, rest)

/-- The pattern that letters write. -/
def read : (fuel : Nat) → List Letter → List Glob
  | 0, _ => []
  | fuel + 1, letters =>
    match letters with
    | [] => []
    | ('*', false) :: rest => .anyText :: read fuel rest
    | ('?', false) :: rest => .anyLetter :: read fuel rest
    | ('[', false) :: rest =>
      let (excluded, inside) := match rest with
        | ('!', false) :: rest | ('^', false) :: rest => (true, rest)
        | rest => (false, rest)
      match members? fuel true inside with
      | some (members, rest) => .oneOf excluded members :: read fuel rest
      | none => .letter '[' :: read fuel rest
    | (c, _) :: rest => .letter c :: read fuel rest

/-- The pattern that letters write. -/
def ofLetters (letters : List Letter) : List Glob := read (letters.length + 1) letters

/-- Whether a pattern matches a text as a whole. -/
def accepts : List Glob → List Char → Bool
  | [], text => text.isEmpty
  | .anyText :: rest, text =>
    (List.range (text.length + 1)).any fun n => accepts rest (text.drop n)
  | .letter c :: rest, text => text.head? == some c && accepts rest (text.drop 1)
  | .anyLetter :: rest, text => !text.isEmpty && accepts rest (text.drop 1)
  | .oneOf excluded members :: rest, text =>
    (text.head?.any fun c => (members.any fun (low, high) => low ≤ c && c ≤ high) != excluded) &&
      accepts rest (text.drop 1)

/-- Whether a part that stands for one character stands for this one. -/
def takes : Glob → Char → Bool
  | .letter d, c => c == d
  | .anyLetter, _ => true
  | .oneOf excluded members, c => (members.any fun (low, high) => low ≤ c && c ≤ high) != excluded
  | .anyText, _ => false

/-- An empty pattern accepts only an empty text. -/
theorem accepts_nil_iff {text : List Char} : accepts [] text = true ↔ text = [] :=
  List.isEmpty_iff

/-- A part for any text leaves some end of the text to the parts behind it. -/
theorem accepts_anyText_iff {rest : List Glob} {text : List Char} :
    accepts (.anyText :: rest) text = true ↔
      ∃ front back, text = front ++ back ∧ accepts rest back = true := by
  rw [accepts, List.any_eq_true]
  constructor
  · rintro ⟨n, -, h⟩
    exact ⟨text.take n, text.drop n, (List.take_append_drop n text).symm, h⟩
  · rintro ⟨front, back, rfl, h⟩
    refine ⟨front.length, ?_, by rwa [List.drop_left]⟩
    rw [List.mem_range, List.length_append]
    omega

/-- Any other part takes the first character. -/
theorem accepts_cons_iff {part : Glob} (hpart : part ≠ .anyText) {rest : List Glob}
    {text : List Char} :
    accepts (part :: rest) text = true ↔
      ∃ c back, text = c :: back ∧ part.takes c = true ∧ accepts rest back = true := by
  cases text with
  | nil => cases part <;> simp_all [accepts]
  | cons c back =>
    have hhead : accepts (part :: rest) (c :: back) = (part.takes c && accepts rest back) := by
      cases part with
      | anyText => exact absurd rfl hpart
      | letter | anyLetter | oneOf => simp [accepts, takes]
    rw [hhead, Bool.and_eq_true]
    constructor
    · rintro ⟨hc, hback⟩
      exact ⟨c, back, rfl, hc, hback⟩
    · rintro ⟨_, _, heq, hc, hback⟩
      cases heq
      exact ⟨hc, hback⟩

/-- **Patterns in a row** match texts in a row. -/
theorem accepts_append_iff {first second : List Glob} {text : List Char} :
    accepts (first ++ second) text = true ↔
      ∃ front back, text = front ++ back ∧ accepts first front = true ∧
        accepts second back = true := by
  induction first generalizing text with
  | nil =>
    simp only [accepts_nil_iff]
    constructor
    · exact fun h => ⟨[], text, rfl, rfl, h⟩
    · rintro ⟨_, back, rfl, rfl, h⟩
      exact h
  | cons part rest ih =>
    rw [List.cons_append]
    by_cases hpart : part = .anyText
    · subst hpart
      simp only [accepts_anyText_iff, ih]
      constructor
      · rintro ⟨front, _, rfl, middle, back, rfl, hmiddle, hback⟩
        exact ⟨front ++ middle, back, (List.append_assoc ..).symm, ⟨front, middle, rfl, hmiddle⟩,
          hback⟩
      · rintro ⟨_, back, rfl, ⟨front, middle, rfl, hmiddle⟩, hback⟩
        exact ⟨front, middle ++ back, List.append_assoc .., middle, back, rfl, hmiddle, hback⟩
    · simp only [accepts_cons_iff hpart, ih]
      constructor
      · rintro ⟨c, _, rfl, hc, middle, back, rfl, hmiddle, hback⟩
        exact ⟨c :: middle, back, rfl, ⟨c, middle, rfl, hc, hmiddle⟩, hback⟩
      · rintro ⟨_, back, rfl, ⟨c, middle, rfl, hc, hmiddle⟩, hback⟩
        exact ⟨c, middle ++ back, rfl, hc, middle, back, rfl, hmiddle, hback⟩

/-- Characters match themselves. -/
theorem accepts_letters_iff {chars text : List Char} :
    accepts (chars.map .letter) text = true ↔ text = chars := by
  induction chars generalizing text with
  | nil => exact accepts_nil_iff
  | cons c rest ih =>
    rw [List.map_cons, accepts_cons_iff (by simp)]
    simp only [ih, takes, beq_iff_eq]
    constructor
    · rintro ⟨_, _, rfl, rfl, rfl⟩
      rfl
    · rintro rfl
      exact ⟨c, rest, rfl, rfl, rfl⟩

/-- Letters between quotes are read as themselves. -/
theorem read_quoted {fuel : Nat} {chars : List Char} (hfuel : chars.length < fuel) :
    read fuel (chars.map (·, true)) = chars.map .letter := by
  induction chars generalizing fuel with
  | nil =>
    obtain ⟨fuel, rfl⟩ := Nat.exists_eq_add_one_of_ne_zero (Nat.ne_of_gt hfuel)
    rfl
  | cons c rest ih =>
    obtain ⟨fuel, rfl⟩ := Nat.exists_eq_add_one_of_ne_zero (Nat.ne_of_gt (Nat.zero_lt_of_lt hfuel))
    have hread : read (fuel + 1) ((c, true) :: rest.map (·, true)) =
        .letter c :: read fuel (rest.map (·, true)) := by
      -- a quoted character is none of those that begin something else
      rw [read]
      all_goals exact fun _ hquoted => Bool.noConfusion hquoted
    rw [List.map_cons, List.map_cons, hread, ih (Nat.lt_of_succ_lt_succ hfuel)]

/-- **Quoting.** A word whose letters are all quoted matches itself and nothing else. -/
theorem accepts_quoted_iff {chars text : List Char} :
    accepts (ofLetters (chars.map (·, true))) text = true ↔ text = chars := by
  rw [ofLetters, read_quoted (by rw [List.length_map]; omega)]
  exact accepts_letters_iff

/-- A text without what a pattern matches at its start or end, as much of it as can be or as little
as can be. -/
def trim (atEnd longest : Bool) (pattern : List Glob) (text : List Char) : List Char :=
  let lengths := List.range (text.length + 1)
  let lengths := if longest then lengths.reverse else lengths
  let found := lengths.find? fun n =>
    accepts pattern (if atEnd then text.drop (text.length - n) else text.take n)
  match found with
  | none => text
  | some n => if atEnd then text.take (text.length - n) else text.drop n

/-- **What is trimmed off** is matched by the pattern; the rest stays as it was. -/
theorem trim_eq (atEnd longest : Bool) (pattern : List Glob) (text : List Char) :
    trim atEnd longest pattern text = text ∨ ∃ cut, accepts pattern cut = true ∧
      text = if atEnd then trim atEnd longest pattern text ++ cut
        else cut ++ trim atEnd longest pattern text := by
  unfold trim
  dsimp only
  split
  next => exact .inl rfl
  next n hfound =>
    have haccepts := List.find?_some hfound
    right
    cases atEnd with
    | true =>
      exact ⟨text.drop (text.length - n), by simpa using haccepts, by simp⟩
    | false => exact ⟨text.take n, by simpa using haccepts, by simp⟩

end Glob

end Shell

end TreeOutline
