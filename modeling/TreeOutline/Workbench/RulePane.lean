import TreeOutline.Text.Lines
import TreeOutline.Workbench.TreePane

namespace TreeOutline

/-!
# The rule pane

* `RulePane` — a cursor over the lines of the rule.
* `RulePane.offset` — how many characters stand before the cursor.
* `RulePane.clampTo` — the nearest place in a new text.
* `RulePane.move`, `RulePane.handleKey` — the keys that move the cursor.
-/

/-- The number of characters of a line; of a line that is not there, zero. -/
def lineLength (lines : List (List Char)) (row : Nat) : Nat := (lines.getD row []).length

/-- A cursor in a text: a line and a place between its characters. -/
structure RulePane where
  row : Nat
  column : Nat
deriving DecidableEq, Repr

namespace RulePane

/-- The cursor at the start. -/
def initial : RulePane := ⟨0, 0⟩

/-- Whether the cursor stands in the text. -/
def Valid (pane : RulePane) (text : List Char) : Prop :=
  pane.row < (splitLines text).length ∧ pane.column ≤ lineLength (splitLines text) pane.row

instance (pane : RulePane) (text : List Char) : Decidable (pane.Valid text) :=
  inferInstanceAs (Decidable (_ ∧ _))

/-- The number of characters before the cursor; each line end is one. -/
def offset (pane : RulePane) (text : List Char) : Nat :=
  linesLength ((splitLines text).take pane.row) + pane.column

/-- The cursor no further than the end of its line. -/
def clampColumn (pane : RulePane) (lines : List (List Char)) : RulePane :=
  { pane with column := min pane.column (lineLength lines pane.row) }

/-- The nearest place in a new text. -/
def clampTo (pane : RulePane) (text : List Char) : RulePane :=
  let lines := splitLines text
  { pane with row := min pane.row (lines.length - 1) }.clampColumn lines

/-- Where a key takes the cursor.  Left and Right go on over line ends. -/
def move (pane : RulePane) (code : KeyCode) (text : List Char) : RulePane :=
  let lines := splitLines text
  match code with
  | .up => { pane with row := pane.row - 1 }.clampColumn lines
  | .down =>
    if pane.row + 1 < lines.length then { pane with row := pane.row + 1 }.clampColumn lines
    else pane
  | .left =>
    if 0 < pane.column then { pane with column := pane.column - 1 }
    -- from the start of a line to the end of the one before, over the line end
    else if 0 < pane.row then ⟨pane.row - 1, lineLength lines (pane.row - 1)⟩
    else pane
  | .right =>
    if pane.column < lineLength lines pane.row then { pane with column := pane.column + 1 }
    else if pane.row + 1 < lines.length then ⟨pane.row + 1, 0⟩
    else pane
  | .home => { pane with column := 0 }
  | .endOfLine => { pane with column := lineLength lines pane.row }
  | _ => pane

/-- Moves the cursor, and tells where it is when it moved. -/
def handleKey (pane : RulePane) (key : KeyPress) (text : List Char) : PaneEvent × RulePane :=
  let moved := pane.move key.code text
  (if moved = pane then .none else .cursorMoved (moved.offset text), moved)

end RulePane

end TreeOutline
