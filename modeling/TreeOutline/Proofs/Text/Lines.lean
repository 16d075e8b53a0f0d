import TreeOutline.Text.Lines

namespace TreeOutline

/-!
# Places in a text

* `splitLines_newline`, `splitLines_cons` — what one character does to the lines of a text.
* `charAt` — what stands at a row and a column of some lines.
* `linesLength_splitLines`, `newline_not_mem_of_mem_splitLines` — how long the lines of a text are,
  and what is not in them.
* `splitLines_append`, `splitLines_join`, `splitLines_join_eq_iff` — a line in front of a text, and
  lines with their ends: they are found again exactly when none of them is broken.
* `linesLength_take_succ`, `linesLength_take_le` — where one line starts after another.
* `LineAround`, `exists_lineAround` — a text with one of its lines cut out.
* `placeIndex`, `getElem?_placeIndex` — how many characters stand in front of a place, which is
  where the text has the character of that place.
-/

/-- Even an empty text has a line. -/
theorem splitLines_length_pos (text : List Char) : 0 < (splitLines text).length :=
  List.length_pos_iff.2 (splitLines_ne_nil text)

/-- There is always a first line. -/
theorem exists_splitLines_eq_cons (text : List Char) :
    ∃ line lines, splitLines text = line :: lines :=
  List.exists_cons_of_ne_nil (splitLines_ne_nil text)

/-- An end of line begins a new line in front of those of the rest. -/
theorem splitLines_newline (text : List Char) : splitLines ('\n' :: text) = [] :: splitLines text :=
  rfl

/-- Any other character goes in front of the first line of the rest. -/
theorem splitLines_cons {c : Char} (hc : c ≠ '\n') {text line : List Char}
    {lines : List (List Char)} (h : splitLines text = line :: lines) :
    splitLines (c :: text) = (c :: line) :: lines := by
  rw [splitLines, if_neg hc, h]

/-! ### The lines of a text -/

/-- The lines of a text are as long as the text, with one end more than it has. -/
theorem linesLength_splitLines (text : List Char) :
    linesLength (splitLines text) = text.length + 1 := by
  induction text with
  | nil => rfl
  | cons c text ih =>
    -- a line end is counted with the line before it, and the last line as if it had one
    by_cases hc : c = '\n'
    · subst hc
      rw [splitLines_newline, linesLength, List.length_nil, List.length_cons, ih]
      omega
    · obtain ⟨line, lines, hlines⟩ := exists_splitLines_eq_cons text
      rw [hlines, linesLength] at ih
      rw [splitLines_cons hc hlines, linesLength, List.length_cons, List.length_cons]
      omega

/-- No line has a line end in it. -/
theorem newline_not_mem_of_mem_splitLines {text line : List Char} (h : line ∈ splitLines text) :
    '\n' ∉ line := by
  induction text generalizing line with
  | nil =>
    rw [List.mem_singleton.1 h]
    exact List.not_mem_nil
  | cons c text ih =>
    -- a line end opens an empty line, any other character joins the first line
    by_cases hc : c = '\n'
    · subst hc
      rw [splitLines_newline, List.mem_cons] at h
      rcases h with rfl | h
      · exact List.not_mem_nil
      · exact ih h
    · obtain ⟨first, lines, hlines⟩ := exists_splitLines_eq_cons text
      rw [splitLines_cons hc hlines, List.mem_cons] at h
      rcases h with rfl | h
      · have hfirst : '\n' ∉ first := ih (by rw [hlines]; exact List.mem_cons_self)
        exact List.not_mem_cons_of_ne_of_not_mem (Ne.symm hc) hfirst
      · exact ih (by rw [hlines]; exact List.mem_cons_of_mem _ h)

/-- An unbroken line in front of a text is its first line. -/
theorem splitLines_append {line : List Char} (hline : '\n' ∉ line) (text : List Char) :
    splitLines (line ++ '\n' :: text) = line :: splitLines text := by
  induction line with
  | nil => exact splitLines_newline text
  | cons c line ih =>
    rw [List.mem_cons, not_or] at hline
    exact splitLines_cons (Ne.symm hline.1) (ih hline.2)

/-- Unbroken lines, each with its end, are the lines of the text that they make. -/
theorem splitLines_join {lines : List (List Char)} (h : ∀ line ∈ lines, '\n' ∉ line) :
    splitLines (lines.flatMap (· ++ ['\n'])) = lines ++ [[]] := by
  induction lines with
  | nil => rfl
  | cons line lines ih =>
    have hline : '\n' ∉ line := h line List.mem_cons_self
    rw [List.flatMap_cons, List.append_assoc, List.singleton_append, splitLines_append hline,
      ih fun other hother => h other (List.mem_cons_of_mem _ hother), List.cons_append]

/-- Lines that are found again were unbroken. -/
theorem splitLines_join_eq_iff {lines : List (List Char)} :
    splitLines (lines.flatMap (· ++ ['\n'])) = lines ++ [[]] ↔ ∀ line ∈ lines, '\n' ∉ line := by
  refine ⟨fun h line hline => ?_, splitLines_join⟩
  have hmem : line ∈ splitLines (lines.flatMap (· ++ ['\n'])) := by
    rw [h]
    exact List.mem_append_left _ hline
  exact newline_not_mem_of_mem_splitLines hmem

/-! ### Where the lines start -/

/-- The length of lines, ends included, is that of their parts. -/
theorem linesLength_append (front back : List (List Char)) :
    linesLength (front ++ back) = linesLength front + linesLength back := by
  induction front with
  | nil => exact (Nat.zero_add _).symm
  | cons line front ih =>
    rw [List.cons_append, linesLength, linesLength, ih]
    omega

/-- The next line starts behind the end of this one. -/
theorem linesLength_take_succ {lines : List (List Char)} {row : Nat} (h : row < lines.length) :
    linesLength (lines.take (row + 1)) = linesLength (lines.take row) + lines[row].length + 1 := by
  rw [List.take_succ_eq_append_getElem h, linesLength_append, linesLength, linesLength]
  omega

/-- Later lines start later. -/
theorem linesLength_take_le {lines : List (List Char)} {row other : Nat} (h : row ≤ other) :
    linesLength (lines.take row) ≤ linesLength (lines.take other) := by
  have hfront : (lines.take other).take row = lines.take row := by
    rw [List.take_take, Nat.min_eq_left h]
  -- the lines in front of the one are the first of those in front of the other
  calc linesLength (lines.take row)
      ≤ linesLength (lines.take row) + linesLength ((lines.take other).drop row) :=
        Nat.le_add_right _ _
    _ = linesLength (lines.take other) := by
        rw [← linesLength_append, ← hfront, List.take_append_drop]

/-- A text in three parts, of which the middle one is a line: no line end is in it, and there is one
in front of it and behind it unless the text begins or ends there. -/
structure LineAround (text front line back : List Char) : Prop where
  text_eq : text = front ++ line ++ back
  unbroken : '\n' ∉ line
  opens : front = [] ∨ ['\n'] <:+ front
  closes : back = [] ∨ ['\n'] <+: back

namespace LineAround

variable {text front line back : List Char} {c : Char}

/-- A character more in front of the lines before, or a line end in front of the first line. -/
theorem cons_front (h : LineAround text front line back) (hc : c = '\n' ∨ front ≠ []) :
    LineAround (c :: text) (c :: front) line back where
  text_eq := congrArg (c :: ·) h.text_eq
  unbroken := h.unbroken
  opens := by
    refine .inr ?_
    rcases h.opens with rfl | hopens
    · -- with nothing in front the line opens the text, so only a line end may come before it
      obtain rfl : c = '\n' := hc.resolve_right (by simp)
      exact List.suffix_refl _
    · exact hopens.trans (List.suffix_cons _ _)
  closes := h.closes

/-- A character more at the start of the first line. -/
theorem cons_line (h : LineAround text [] line back) (hc : c ≠ '\n') :
    LineAround (c :: text) [] (c :: line) back where
  text_eq := congrArg (c :: ·) h.text_eq
  unbroken := List.not_mem_cons_of_ne_of_not_mem (Ne.symm hc) h.unbroken
  opens := .inl rfl
  closes := h.closes

end LineAround

/-- Each line of a text can be cut out of it; in front of it stand the lines before. -/
theorem exists_lineAround {text line : List Char} {row : Nat}
    (h : (splitLines text)[row]? = some line) :
    ∃ front back, LineAround text front line back ∧
      front.length = linesLength ((splitLines text).take row) := by
  induction text generalizing row line with
  | nil =>
    cases row with
    | zero => exact ⟨[], [], ⟨by cases h; rfl, by cases h; simp, .inl rfl, .inl rfl⟩, rfl⟩
    | succ row => exact nomatch h
  | cons c text ih =>
    by_cases hc : c = '\n'
    · rw [hc, splitLines_newline] at h ⊢
      cases row with
      | zero =>
        cases h
        exact ⟨[], '\n' :: text, ⟨rfl, List.not_mem_nil, .inl rfl, .inr ⟨text, rfl⟩⟩, rfl⟩
      | succ row =>
        obtain ⟨front, back, haround, hlength⟩ := ih h
        refine ⟨'\n' :: front, back, haround.cons_front (.inl rfl), ?_⟩
        rw [List.take_succ_cons, linesLength, List.length_cons, hlength, List.length_nil]
        omega
    · obtain ⟨first, lines, hlines⟩ := exists_splitLines_eq_cons text
      rw [hlines] at ih
      rw [splitLines_cons hc hlines] at h ⊢
      cases row with
      | zero =>
        cases h
        obtain ⟨front, back, haround, hlength⟩ := @ih _ 0 rfl
        rw [List.eq_nil_of_length_eq_zero hlength] at haround
        exact ⟨[], back, haround.cons_line hc, rfl⟩
      | succ row =>
        obtain ⟨front, back, haround, hlength⟩ := @ih _ (row + 1) h
        rw [List.take_succ_cons, linesLength] at hlength
        -- The first line and its end stand in front, so the front is not empty.
        have hfront : front ≠ [] := by
          rintro rfl
          rw [List.length_nil] at hlength
          omega
        refine ⟨c :: front, back, haround.cons_front (.inr hfront), ?_⟩
        rw [List.take_succ_cons, linesLength, List.length_cons, List.length_cons]
        omega

/-! ### Places -/

/-- What stands in some lines at a row and a column. -/
def charAt {α : Type} (lines : List (List α)) (row column : Nat) : Option α :=
  lines[row]?.bind (·[column]?)

/-- How many characters stand in front of a place; each line end is one. -/
def placeIndex (text : List Char) (row column : Nat) : Nat :=
  linesLength ((splitLines text).take row) + column

@[simp] theorem placeIndex_zero (text : List Char) (column : Nat) :
    placeIndex text 0 column = column :=
  Nat.zero_add column

/-- An end of line moves each later line by one character. -/
theorem placeIndex_newline (text : List Char) (row column : Nat) :
    placeIndex ('\n' :: text) (row + 1) column = placeIndex text row column + 1 := by
  unfold placeIndex
  rw [splitLines_newline, List.take_succ_cons, linesLength, List.length_nil]
  omega

/-- So does any other character in front. -/
theorem placeIndex_cons {c : Char} (hc : c ≠ '\n') (text : List Char) (row column : Nat) :
    placeIndex (c :: text) (row + 1) column = placeIndex text (row + 1) column + 1 := by
  obtain ⟨line, lines, hlines⟩ := exists_splitLines_eq_cons text
  unfold placeIndex
  rw [splitLines_cons hc hlines, hlines, List.take_succ_cons, List.take_succ_cons, linesLength,
    linesLength, List.length_cons]
  omega

/-- The text has the character of a place where the characters in front of the place end. -/
theorem getElem?_placeIndex {text : List Char} {row column : Nat} {c : Char}
    (h : charAt (splitLines text) row column = some c) :
    text[placeIndex text row column]? = some c := by
  induction text generalizing row column with
  | nil =>
    cases row with
    | zero => exact absurd h (by simp [charAt, splitLines])
    -- a line end closes the first line: the place is one row up in the rest
    | succ row => exact absurd h (by simp [charAt, splitLines])
  | cons first text ih =>
    by_cases hfirst : first = '\n'
    · subst hfirst
      rw [splitLines_newline] at h
      cases row with
      | zero => exact absurd h (by simp [charAt])
      | succ row =>
        rw [placeIndex_newline, List.getElem?_cons_succ]
        exact ih h
    · obtain ⟨line, lines, hlines⟩ := exists_splitLines_eq_cons text
      rw [splitLines_cons hfirst hlines] at h
      rw [hlines] at ih
      cases row with
      | succ row =>
        rw [placeIndex_cons hfirst, List.getElem?_cons_succ]
        exact @ih (row + 1) column h
      | zero =>
        rw [placeIndex_zero]
        cases column with
        | zero => exact h
        -- in the first line the place moves with the column
        | succ column =>
          have hrest := @ih 0 column h
          rw [placeIndex_zero] at hrest
          rw [List.getElem?_cons_succ]
          exact hrest

end TreeOutline
