import Mathlib.Data.Set.Function
import Mathlib.Order.Interval.Set.Defs
import TreeOutline.Proofs.Workbench.Cursor

namespace TreeOutline

/-!
# Cursors and offsets

A place between the characters of a text is a line and a column, or the number of characters before
it.

* `lineStart` — the offset at which a line starts; the next one starts behind its end.
* `Valid.offset_le`, `Valid.eq_of_offset_eq` — the offset of a cursor lies in the text, and it is
  that of no other cursor.
* `Valid.offset_right`, `Valid.offset_left` — Right and Left pass one character, or stay at the end
  and at the start.
* `exists_valid_of_le` — so Right reaches every offset.
* `Valid.exists_around` — the line that the cursor stands in, from where Home goes to where End
  goes.
* `cursors_bijOn_offsets` — cursors and offsets correspond one to one, and what the keys do to both.
-/

/-- The offset at which a line of a text starts. -/
def lineStart (text : List Char) (row : Nat) : Nat := linesLength ((splitLines text).take row)

section LineStart

variable {text : List Char} {row other : Nat}

@[simp] theorem lineStart_zero (text : List Char) : lineStart text 0 = 0 := rfl

/-- A line that there is has its own length. -/
theorem lineLength_of_lt {lines : List (List Char)} (h : row < lines.length) :
    lineLength lines row = lines[row].length := by
  unfold lineLength
  rw [List.getD_eq_getElem?_getD, List.getElem?_eq_getElem h, Option.getD_some]

/-- A line ends one character before the next one starts. -/
theorem lineStart_succ (h : row < (splitLines text).length) :
    lineStart text (row + 1) = lineStart text row + lineLength (splitLines text) row + 1 := by
  rw [lineLength_of_lt h]
  exact linesLength_take_succ h

/-- A later line starts later. -/
theorem lineStart_le (h : row ≤ other) : lineStart text row ≤ lineStart text other :=
  linesLength_take_le h

/-- Behind the last line the text would go on one character after its end. -/
theorem lineStart_length (text : List Char) :
    lineStart text (splitLines text).length = text.length + 1 := by
  unfold lineStart
  rw [List.take_length, linesLength_splitLines]

/-- The end of the last line is the end of the text. -/
theorem lineEnd_of_last (h : row + 1 = (splitLines text).length) :
    lineStart text row + lineLength (splitLines text) row = text.length := by
  have hnext := lineStart_succ (show row < (splitLines text).length by omega)
  rw [h, lineStart_length] at hnext
  omega

end LineStart

namespace RulePane

variable {pane other : RulePane} {text : List Char}

/-! ### Different cursors, different offsets -/

/-- The offset of the cursor is the start of its line and its column. -/
theorem offset_eq (pane : RulePane) (text : List Char) :
    pane.offset text = lineStart text pane.row + pane.column := rfl

namespace Valid

/-- A cursor stands before the start of every later line. -/
theorem offset_lt_lineStart (h : pane.Valid text) {row : Nat} (hrow : pane.row < row) :
    pane.offset text < lineStart text row := by
  have hnext : lineStart text (pane.row + 1) ≤ lineStart text row := lineStart_le hrow
  have hcolumn := h.2
  rw [lineStart_succ h.1] at hnext
  rw [offset_eq]
  omega

/-- A cursor has no more characters before it than the text has. -/
theorem offset_le (h : pane.Valid text) : pane.offset text ≤ text.length := by
  have hlt := h.offset_lt_lineStart h.1
  rw [lineStart_length] at hlt
  omega

/-- Only at the end of the last line the whole text is before the cursor. -/
theorem offset_lt_of_next (h : pane.Valid text) (hnext : pane.row + 1 < (splitLines text).length) :
    pane.offset text < text.length := by
  have hlt : pane.offset text < lineStart text (pane.row + 1) :=
    h.offset_lt_lineStart (Nat.lt_succ_self _)
  have hle : lineStart text (pane.row + 1 + 1) ≤ lineStart text (splitLines text).length :=
    lineStart_le hnext
  rw [lineStart_succ hnext, lineStart_length] at hle
  omega

/-- A cursor on an earlier line has fewer characters before it. -/
theorem offset_lt_of_row_lt (h : pane.Valid text) (hrow : pane.row < other.row) :
    pane.offset text < other.offset text :=
  (h.offset_lt_lineStart hrow).trans_le (Nat.le_add_right _ _)

/-- **One to one.** Two cursors with the same characters before them are the same. -/
theorem eq_of_offset_eq (h : pane.Valid text) (hother : other.Valid text)
    (heq : pane.offset text = other.offset text) : pane = other := by
  have hrow : pane.row = other.row := by
    -- offsets in a later row are larger, so the rows agree, and then the columns do
    rcases Nat.lt_trichotomy pane.row other.row with hlt | hrow | hlt
    · exact absurd heq (h.offset_lt_of_row_lt hlt).ne
    · exact hrow
    · exact absurd heq.symm (hother.offset_lt_of_row_lt hlt).ne
  obtain ⟨row, column⟩ := pane
  obtain ⟨row', column'⟩ := other
  subst hrow
  have hcolumn : column = column' := Nat.add_left_cancel heq
  rw [hcolumn]

/-! ### One character to the right or to the left -/

/-- **Right** passes one character, a line end like any other. -/
theorem offset_right (h : pane.Valid text) (hbefore : pane.offset text < text.length) :
    (pane.move .right text).offset text = pane.offset text + 1 := by
  have hcolumn := h.2
  dsimp only [RulePane.move]
  -- inside the line one column on, at its end to the start of the next line
  by_cases hinside : pane.column < lineLength (splitLines text) pane.row
  · rw [if_pos hinside]
    rfl
  · rw [if_neg hinside]
    have hmore : pane.row + 1 < (splitLines text).length := by
      by_contra hlast
      have hrow := h.1
      have hend := lineEnd_of_last (show pane.row + 1 = (splitLines text).length by omega)
      rw [offset_eq] at hbefore
      omega
    rw [if_pos hmore, offset_eq, offset_eq, lineStart_succ h.1]
    dsimp only
    omega

/-- At the end of the text Right stays. -/
theorem right_of_end (h : pane.Valid text) (hend : pane.offset text = text.length) :
    pane.move .right text = pane := by
  have hlast : ¬pane.row + 1 < (splitLines text).length := fun hnext =>
    absurd hend (h.offset_lt_of_next hnext).ne
  have hrow := h.1
  -- the end of the text is the end of the last line
  have hline := lineEnd_of_last (show pane.row + 1 = (splitLines text).length by omega)
  dsimp only [RulePane.move]
  rw [offset_eq] at hend
  rw [if_neg (by omega), if_neg hlast]

/-- **Left** passes one character. -/
theorem offset_left (h : pane.Valid text) (hafter : 0 < pane.offset text) :
    (pane.move .left text).offset text + 1 = pane.offset text := by
  dsimp only [RulePane.move]
  by_cases hinside : 0 < pane.column
  · rw [if_pos hinside, offset_eq, offset_eq]
    dsimp only
    omega
  · rw [if_neg hinside]
    -- the first row at column zero is at offset zero
    have habove : 0 < pane.row := by
      by_contra hfirst
      rw [offset_eq, Nat.eq_zero_of_not_pos hfirst, lineStart_zero] at hafter
      omega
    rw [if_pos habove, offset_eq, offset_eq]
    have hrow := h.1
    have hnext := lineStart_succ (show pane.row - 1 < (splitLines text).length by omega)
    rw [Nat.sub_add_cancel habove] at hnext
    dsimp only
    omega

/-- At the start of the text Left stays. -/
theorem left_of_start (hstart : pane.offset text = 0) : pane.move .left text = pane := by
  rw [offset_eq] at hstart
  have hrow : pane.row = 0 := by
    by_contra hne
    -- any later row starts behind a line end
    have hfirst : lineStart text 1 ≤ lineStart text pane.row := lineStart_le (by omega)
    rw [lineStart_succ (splitLines_length_pos text)] at hfirst
    omega
  dsimp only [RulePane.move]
  rw [if_neg (by omega), if_neg (by omega)]

end Valid

/-- **Every offset is a place.** From the start, Right reaches it. -/
theorem exists_valid_of_le {k : Nat} (h : k ≤ text.length) :
    ∃ pane : RulePane, pane.Valid text ∧ pane.offset text = k := by
  induction k with
  | zero => exact ⟨initial, valid_initial text, offset_initial text⟩
  | succ k ih =>
    obtain ⟨pane, hvalid, hoffset⟩ := ih (Nat.le_of_succ_le h)
    refine ⟨pane.move .right text, hvalid.move .right, ?_⟩
    rw [hvalid.offset_right (by omega), hoffset]

/-! ### The line around a cursor -/

/-- **Home and End** go to the two ends of the line that the cursor stands in. -/
theorem Valid.exists_around (h : pane.Valid text) :
    ∃ front line back, LineAround text front line back ∧
      (pane.move .home text).offset text = front.length ∧
      (pane.move .endOfLine text).offset text = front.length + line.length ∧
      front.length ≤ pane.offset text ∧ pane.offset text ≤ front.length + line.length := by
  obtain ⟨hrow, hcolumn⟩ := h
  obtain ⟨front, back, haround, hlength⟩ :=
    exists_lineAround (List.getElem?_eq_getElem hrow)
  rw [lineLength_of_lt hrow] at hcolumn
  -- what is in front of the line are the lines before it
  have hstart : front.length = lineStart text pane.row := hlength
  refine ⟨front, _, back, haround, ?_, ?_, ?_, ?_⟩
  · rw [hstart]
    rfl
  · rw [hstart, ← lineLength_of_lt hrow]
    rfl
  · rw [hstart, offset_eq]
    omega
  · rw [hstart, offset_eq]
    omega

/-! ### Up and Down -/

/-- Up is the line above, at the same column as far as that line goes. -/
theorem move_up (pane : RulePane) (text : List Char) :
    pane.move .up text =
      ⟨pane.row - 1, min pane.column (lineLength (splitLines text) (pane.row - 1))⟩ := rfl

/-- Down goes one line on as long as there is one. -/
theorem Valid.move_down (h : pane.Valid text) :
    pane.move .down text =
      ⟨min (pane.row + 1) ((splitLines text).length - 1),
        min pane.column
          (lineLength (splitLines text) (min (pane.row + 1) ((splitLines text).length - 1)))⟩ := by
  obtain ⟨hrow, hcolumn⟩ := h
  dsimp only [RulePane.move]
  by_cases hnext : pane.row + 1 < (splitLines text).length
  · rw [if_pos hnext, Nat.min_eq_left (by omega)]
    rfl
  · rw [if_neg hnext]
    -- in the last row the clamped row is the same row
    have hlast : min (pane.row + 1) ((splitLines text).length - 1) = pane.row := by omega
    rw [hlast, Nat.min_eq_left hcolumn]

/-- **Cursors and offsets correspond one to one.** In every text the cursors that stand in it have
each of the offsets up to the length of the text exactly once.  Right and Left pass one character
and stay at the two ends; Up and Down go one line at most and keep the column as far as the new line
goes; Home and End go to the ends of the line around the cursor.  No key takes the cursor out of the
text, and clamping brings any cursor into it. -/
theorem cursors_bijOn_offsets (text : List Char) :
    Set.BijOn (fun pane : RulePane => pane.offset text) {pane | pane.Valid text}
        (Set.Iic text.length) ∧
      (∀ pane : RulePane, pane.Valid text →
        (pane.offset text < text.length →
          (pane.move .right text).offset text = pane.offset text + 1) ∧
        (pane.offset text = text.length → pane.move .right text = pane) ∧
        (0 < pane.offset text → (pane.move .left text).offset text + 1 = pane.offset text) ∧
        (pane.offset text = 0 → pane.move .left text = pane) ∧
        (let lines := splitLines text
          let above := pane.row - 1
          let below := min (pane.row + 1) (lines.length - 1)
          pane.move .up text = ⟨above, min pane.column (lineLength lines above)⟩ ∧
            pane.move .down text = ⟨below, min pane.column (lineLength lines below)⟩) ∧
        (∃ front line back, LineAround text front line back ∧
          (pane.move .home text).offset text = front.length ∧
          (pane.move .endOfLine text).offset text = front.length + line.length ∧
          front.length ≤ pane.offset text ∧ pane.offset text ≤ front.length + line.length) ∧
        ∀ code, (pane.move code text).Valid text) ∧
      ∀ pane : RulePane, (pane.clampTo text).Valid text := by
  -- into the offsets, one to one, and onto them
  refine ⟨⟨?_, ?_, ?_⟩, fun pane hvalid => ?_, fun pane => pane.valid_clampTo text⟩
  · intro pane hvalid
    exact hvalid.offset_le
  · intro pane hvalid other hother heq
    exact hvalid.eq_of_offset_eq hother heq
  · intro k hk
    exact exists_valid_of_le hk
  · exact ⟨hvalid.offset_right, hvalid.right_of_end, hvalid.offset_left, Valid.left_of_start,
      ⟨pane.move_up text, hvalid.move_down⟩, hvalid.exists_around, hvalid.move⟩

/-- An empty line takes one character, and a letter of several bytes one as well. -/
example : (⟨2, 1⟩ : RulePane).offset ['a', 'b', '\n', '\n', 'é'] = 5 := by decide

end RulePane

end TreeOutline
