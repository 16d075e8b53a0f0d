import TreeOutline.Proofs.Workbench.Cursor
import TreeOutline.Proofs.Workbench.Frame
import TreeOutline.Proofs.Workbench.Selection
import TreeOutline.Screen.Draw

namespace TreeOutline

/-!
# What is in view

A pane with a few lines shows a stretch of many, and the line that matters is always in it.

* `InView` — the lines drawn are a stretch of all lines, in their order, with one of them in it.
* `inView_scrollTo` — **scrolling brings a line into view**, whatever the lines are and however few
  of them there is room for.
* `StyledLine.spots` — where a line has a style, and what it says there.
* `Row.DrawnAs`, `Row.drawnAs_styledLine` — a row begins with its line; the style of the selection
  is on the label of the selected row and nowhere else.
* `RulePane.DrawnAs`, `RulePane.drawnAs_line` — a line of the rule is drawn as it is; the style of
  the cursor is on one character of the cursor's line, a blank where the line ends.
* `App.run_in_view` — **selection and cursor are in view** in every run of the application.
-/

/-! ### A stretch of lines -/

/-- The lines drawn in a pane of `height` lines are those of `all` from `first` on, as many as there
is room for; `shows` says how a line is drawn.  The line `index` is one of them, and nothing is
scrolled away where it has room without that. -/
structure InView {α : Type} (all : List α) (shows : (number : Nat) → α → StyledLine → Prop)
    (first index height : Nat) (drawn : List StyledLine) : Prop where
  length_eq : drawn.length = min height (all.length - first)
  shows : ∀ j line, drawn[j]? = some line →
    ∃ x, all[first + j]? = some x ∧ shows (first + j) x line
  first_le : first ≤ index
  index_lt : index < first + drawn.length
  from_top : index < height → first = 0

/-- The first line in view is never behind the one scrolled to. -/
theorem scrollTo_le (index height : Nat) : scrollTo index height ≤ index := Nat.sub_le _ _

/-- Nor is the one scrolled to behind the last line in view. -/
theorem lt_scrollTo_add (index : Nat) {height : Nat} (h : 0 < height) :
    index < scrollTo index height + height := by
  unfold scrollTo
  omega

/-- As long as the line is among the first ones, nothing is scrolled. -/
theorem scrollTo_eq_zero {index height : Nat} (h : index < height) : scrollTo index height = 0 := by
  unfold scrollTo
  omega

section

variable {α : Type} (all : List α) (first height : Nat) (draw : α × Nat → StyledLine)

/-- The lines of a stretch are drawn with the numbers that they have among all lines. -/
theorem getElem?_stretch (j : Nat) :
    ((((all.zipIdx.drop first).take height).map draw)[j]?) =
      if j < height then all[first + j]?.map fun x => draw (x, first + j) else none := by
  rw [List.getElem?_map, List.getElem?_take]
  by_cases hj : j < height
  · rw [if_pos hj, if_pos hj, List.getElem?_drop, List.getElem?_zipIdx, Option.map_map,
      Nat.zero_add]
    rfl
  · rw [if_neg hj, if_neg hj]
    rfl

/-- A stretch has as many lines as there is room for or as are left. -/
theorem length_stretch :
    (((all.zipIdx.drop first).take height).map draw).length = min height (all.length - first) := by
  rw [List.length_map, List.length_take, List.length_drop, List.length_zipIdx]

variable {all height draw}

/-- **Scrolling brings a line into view.** However few lines there is room for, scrolled to one of
them the pane shows it, provided each line is drawn as it should be. -/
theorem inView_scrollTo {index : Nat} (hheight : 0 < height) (hindex : index < all.length)
    {shows : (number : Nat) → α → StyledLine → Prop}
    (hshows : ∀ number x, all[number]? = some x → shows number x (draw (x, number))) :
    InView all shows (scrollTo index height) index height
      (((all.zipIdx.drop (scrollTo index height)).take height).map draw) where
  length_eq := length_stretch all _ height draw
  shows := by
    intro j line hline
    rw [getElem?_stretch] at hline
    by_cases hj : j < height
    · rw [if_pos hj, Option.map_eq_some_iff] at hline
      obtain ⟨x, hx, rfl⟩ := hline
      exact ⟨x, hx, hshows _ x hx⟩
    · rw [if_neg hj] at hline
      exact nomatch hline
  first_le := scrollTo_le index height
  index_lt := by
    rw [length_stretch]
    have hle := scrollTo_le index height
    -- the row scrolled to is among the rows shown, since at least one is
    have hlt := lt_scrollTo_add index hheight
    omega
  from_top := scrollTo_eq_zero

end

/-! ### Where a line has a style -/

namespace StyledLine

/-- The runs in a style: the characters before each of them, from `column` on, and its text. -/
def spotsFrom (style : Style) : (column : Nat) → StyledLine → List (Nat × List Char)
  | _, [] => []
  | column, run :: rest =>
    let later := spotsFrom style (column + run.text.length) rest
    if run.style = style then (column, run.text) :: later else later

/-- The runs of a line in a style: the characters before each of them, and its text. -/
def spots (style : Style) (line : StyledLine) : List (Nat × List Char) := spotsFrom style 0 line

@[simp] theorem spotsFrom_nil (style : Style) (column : Nat) : spotsFrom style column [] = [] := rfl

/-- A run in the style is a spot at its column. -/
theorem spotsFrom_cons_of_eq {style : Style} {run : Run} (h : run.style = style) (column : Nat)
    (rest : StyledLine) : spotsFrom style column (run :: rest) =
      (column, run.text) :: spotsFrom style (column + run.text.length) rest := if_pos h

/-- Any other run only moves the column. -/
theorem spotsFrom_cons_of_ne {style : Style} {run : Run} (h : run.style ≠ style) (column : Nat)
    (rest : StyledLine) : spotsFrom style column (run :: rest) =
      spotsFrom style (column + run.text.length) rest := if_neg h

/-- A line without the style has no spots. -/
theorem spotsFrom_eq_nil {style : Style} {line : StyledLine}
    (h : ∀ run ∈ line, run.style ≠ style) (column : Nat) : spotsFrom style column line = [] := by
  induction line generalizing column with
  | nil => rfl
  | cons run rest ih =>
    rw [spotsFrom_cons_of_ne (h run List.mem_cons_self)]
    exact ih (fun other hother => h other (List.mem_cons_of_mem run hother)) _

@[simp] theorem chars_nil : chars [] = [] := rfl

@[simp] theorem chars_cons (run : Run) (rest : StyledLine) :
    chars (run :: rest) = run.text ++ chars rest := rfl

end StyledLine

/-! ### Rows -/

/-- How the label of the selected row looks. -/
def selectionStyle : Style := (Style.on .white .blue).inBold

namespace Row

/-- Only a selected label looks like one. -/
theorem labelStyle_eq_selectionStyle_iff (row : Row) (selected : Bool) :
    row.labelStyle selected = selectionStyle ↔ selected = true := by
  unfold labelStyle
  cases selected with
  | true => exact iff_of_true rfl rfl
  | false =>
    rw [if_neg Bool.false_ne_true]
    refine iff_of_false ?_ Bool.false_ne_true
    -- no style of a row that is not selected is the selection's
    split
    · decide
    · split <;> decide

/-- No snippet looks like a selected label. -/
theorem style_snippetRuns (row : Row) (width : Nat) :
    ∀ run ∈ row.snippetRuns width, run.style ≠ selectionStyle := by
  intro run hrun
  unfold snippetRuns at hrun
  dsimp only at hrun
  split at hrun
  · exact absurd hrun List.not_mem_nil
  · rcases List.mem_pair.1 hrun with rfl | rfl
    · exact (by decide : Style.plain ≠ selectionStyle)
    · exact (by decide : Style.letters .darkGray ≠ selectionStyle)

/-- A row is drawn with its indentation and its label first.  If its number is `selected`, the label
has the style of the selection, and nothing else has. -/
def DrawnAs (selected number : Nat) (row : Row) (line : StyledLine) : Prop :=
  row.line.toList <+: line.chars ∧
    line.spots selectionStyle =
      if number = selected then [(2 * row.level, row.text.toList)] else []

/-- A row's line is drawn as its number asks for: in the cursor's style if it is selected. -/
theorem drawnAs_styledLine (row : Row) (selected number width : Nat) :
    row.DrawnAs selected number (row.styledLine (some selected == some number) width) := by
  have hplain : (Run.plain row.indentation.toList).style ≠ selectionStyle := by
    show Style.plain ≠ selectionStyle
    decide
  constructor
  · unfold styledLine line
    rw [String.toList_append, List.cons_append, List.cons_append, StyledLine.chars_cons,
      StyledLine.chars_cons, ← List.append_assoc]
    exact List.prefix_append _ _
  · unfold styledLine StyledLine.spots
    rw [List.cons_append, List.cons_append, StyledLine.spotsFrom_cons_of_ne hplain]
    -- of the runs in the line only the label can be drawn in the selection's style
    by_cases hnumber : number = selected
    · subst hnumber
      rw [StyledLine.spotsFrom_cons_of_eq
          ((row.labelStyle_eq_selectionStyle_iff _).2 (beq_self_eq_true _)),
        List.nil_append, StyledLine.spotsFrom_eq_nil (row.style_snippetRuns width), if_pos rfl]
      simp [Run.plain, indentation]
    · have hother : (some selected == some number) = false :=
        beq_false_of_ne fun h => hnumber (Option.some.inj h).symm
      have hlabel : row.labelStyle (some selected == some number) ≠ selectionStyle := fun h =>
        Bool.false_ne_true (hother.symm.trans ((row.labelStyle_eq_selectionStyle_iff _).1 h))
      rw [StyledLine.spotsFrom_cons_of_ne hlabel, List.nil_append,
        StyledLine.spotsFrom_eq_nil (row.style_snippetRuns width), if_neg hnumber]

end Row

/-- **The selected row is in view.** -/
theorem TreePane.lines_inView {pane : TreePane} {m : Model} {selected : Nat}
    (h : pane.selectedIndex m = some selected) (width : Nat) {height : Nat} (hheight : 0 < height) :
    InView m.rows (fun number row line => row.DrawnAs selected number line)
      (scrollTo selected height) selected height (pane.lines m width height) := by
  unfold lines
  rw [h]
  exact inView_scrollTo hheight (lt_of_selectedIndex h) fun number row _ =>
    row.drawnAs_styledLine selected number width

/-! ### Lines of the rule -/

namespace RulePane

/-- A line of the rule is drawn as it is.  The cursor's line has the style of the cursor on the
character at its column alone, and with the cursor at its end that is a blank more. -/
def DrawnAs (pane : RulePane) (number : Nat) (text : List Char) (line : StyledLine) : Prop :=
  if number = pane.row then
    ∃ c, (text ++ [' '])[pane.column]? = some c ∧ line.spots cursorStyle = [(pane.column, [c])] ∧
      line.chars = if pane.column = text.length then text ++ [' '] else text
  else line.chars = text ∧ line.spots cursorStyle = []

/-- A plain run is not in the cursor's style. -/
theorem style_plain (text : List Char) : (Run.plain text).style ≠ cursorStyle := by
  show Style.plain ≠ cursorStyle
  decide

/-- With the cursor in it a line is cut in three, or in two at its end. -/
theorem cursorLine_of_le {text : List Char} {column : Nat} (h : column ≤ text.length) :
    ∃ c, (text ++ [' '])[column]? = some c ∧
      (cursorLine text column).spots cursorStyle = [(column, [c])] ∧
      (cursorLine text column).chars = if column = text.length then text ++ [' '] else text := by
  have hbefore : (text.take column).length = column := List.length_take_of_le h
  have hcursor (c : Char) : (⟨[c], cursorStyle⟩ : Run).style = cursorStyle := rfl
  unfold cursorLine StyledLine.spots
  -- the cursor is behind the last character, on a blank, or it is on a character
  cases hrest : text.drop column with
  | nil =>
    obtain rfl : column = text.length := Nat.le_antisymm h (List.drop_eq_nil_iff.1 hrest)
    refine ⟨' ', List.getElem?_concat_length .., ?_, ?_⟩
    · rw [StyledLine.spotsFrom_cons_of_ne (style_plain _),
        StyledLine.spotsFrom_cons_of_eq (hcursor ' '), StyledLine.spotsFrom_nil]
      simp [Run.plain]
    · rw [if_pos rfl, List.take_length]
      rfl
  | cons c rest =>
    have hlt : column < text.length := by
      by_contra hge
      rw [List.drop_eq_nil_of_le (Nat.le_of_not_lt hge)] at hrest
      exact nomatch hrest
    have hsplit : text.take column ++ c :: rest = text := hrest ▸ List.take_append_drop column text
    refine ⟨c, ?_, ?_, ?_⟩
    · rw [List.getElem?_append_left hlt, ← Nat.add_zero column, ← List.getElem?_drop, hrest]
      rfl
    · rw [StyledLine.spotsFrom_cons_of_ne (style_plain _),
        StyledLine.spotsFrom_cons_of_eq (hcursor c),
        StyledLine.spotsFrom_cons_of_ne (style_plain _), StyledLine.spotsFrom_nil]
      simp [Run.plain, hbefore]
    · rw [if_neg (Nat.ne_of_lt hlt)]
      refine Eq.trans ?_ hsplit
      simp [Run.plain]

variable {pane : RulePane} {rule : List Char}

/-- Every line of the rule is drawn so, provided the cursor stands in the rule. -/
theorem Valid.drawnAs_line (h : pane.Valid rule) (number : Nat) {text : List Char}
    (htext : (splitLines rule)[number]? = some text) :
    pane.DrawnAs number text
      (if number = pane.row then cursorLine text pane.column else [.plain text]) := by
  unfold DrawnAs
  -- the cursor is drawn in its own line and leaves the others plain
  by_cases hnumber : number = pane.row
  · rw [if_pos hnumber, if_pos hnumber]
    have hcolumn := h.2
    unfold lineLength at hcolumn
    rw [← hnumber, List.getD_eq_getElem?_getD, htext] at hcolumn
    exact cursorLine_of_le hcolumn
  · rw [if_neg hnumber, if_neg hnumber]
    refine ⟨?_, StyledLine.spotsFrom_cons_of_ne (style_plain text) 0 []⟩
    simp [Run.plain]

/-- **The cursor is in view.** -/
theorem Valid.lines_inView (h : pane.Valid rule) {height : Nat} (hheight : 0 < height) :
    InView (splitLines rule) pane.DrawnAs (scrollTo pane.row height) pane.row height
      (pane.lines rule height) :=
  inView_scrollTo hheight h.1 fun number _ htext => h.drawnAs_line number htext

end RulePane

/-! ### The application -/

namespace App

/-- **Selection and cursor are in view.** From any model, whatever happens to the application, and
in panes of any width and of at least one line: if there are rows, the tree pane shows a stretch of
them with the selected row, whose label alone has the style of the selection; the rule pane shows a
stretch of the rule's lines with the cursor's, in which one character alone has the style of the
cursor. -/
theorem run_in_view (m : Model) (title : String) (actions : List Action) (width : Nat)
    {height : Nat} (hheight : 0 < height) :
    let app := (ofModel m title).run actions
    let rule := app.model.session.rule.toList
    (0 < app.model.rows.length → ∃ selected,
      app.treePane.selectedIndex app.model = some selected ∧
        InView app.model.rows (fun number row line => row.DrawnAs selected number line)
          (scrollTo selected height) selected height
          (app.treePane.lines app.model width height)) ∧
      InView (splitLines rule) app.rulePane.DrawnAs (scrollTo app.rulePane.row height)
        app.rulePane.row height (app.rulePane.lines rule height) := by
  intro app rule
  constructor
  · -- with a row there is a selected one; a rule has a line even when it is empty
    intro hrows
    obtain ⟨selected, hselected, -⟩ := app.treePane.exists_selectedIndex hrows
    exact ⟨selected, hselected, TreePane.lines_inView hselected width hheight⟩
  · have hcursor : app.CursorInRule := run_cursorInRule m title actions
    exact RulePane.Valid.lines_inView hcursor hheight

/-- Keys that take the selection to the last row and the cursor to the end of the rule. -/
def keysToEnds : List Action := ([.endOfLine, .tab, .endOfLine] : List KeyCode).map plainKey

/-- Three rows, of which two have room: the first one is scrolled away, and the last one, which is
selected, is in view with its label in the style of the selection.  The cursor at the end of the
rule's line is a blank behind it. -/
theorem run_in_view_ends :
    let app := spannedApp keysToEnds
    let rule := app.model.session.rule.toList
    let lines := app.treePane.lines app.model 30 2
    0 < 2 ∧ 0 < app.model.rows.length ∧ app.treePane.selectedIndex app.model = some 2 ∧
      InView app.model.rows (fun number row line => row.DrawnAs 2 number line) 1 2 2 lines ∧
      lines.map (·.spots selectionStyle) = [[], [(4, "*Leaf".toList)]] ∧
      InView (splitLines rule) app.rulePane.DrawnAs (scrollTo app.rulePane.row 2) app.rulePane.row 2
        (app.rulePane.lines rule 2) ∧
      (app.rulePane.lines rule 2).map StyledLine.chars = ["visitor: \x7b Leaf ".toList] := by
  intro app rule lines
  have hrows : 0 < app.model.rows.length := by
    unfold app
    cbv
  have hselected : app.treePane.selectedIndex app.model = some 2 := by
    unfold app
    cbv
  obtain ⟨htree, hrule⟩ :=
    run_in_view (.ofSession spannedSession openRules) "Ast" keysToEnds 30 (by decide : 0 < 2)
  -- three rows in a window of two: the last one is selected, so the first is out of it
  obtain ⟨selected, hthere, hview⟩ := htree hrows
  obtain rfl : selected = 2 := Option.some.inj (hthere.symm.trans hselected)
  refine ⟨by decide, hrows, hselected, hview, ?_, hrule, ?_⟩
  · unfold lines app
    cbv
  · unfold rule app
    cbv

end App

end TreeOutline
