import TreeOutline.Workbench.Key
import TreeOutline.Workbench.Model

namespace TreeOutline

/-!
# The tree pane

* `TreePane` — the selected label, remembered by key, and the index it was last seen at.
* `TreePane.selectedIndex` — where the selection is now: when its label is gone, the row at the
  same index, or the last one.
* `TreePane.handleKey` — moves the selection or asks for a toggle.
-/

/-- What a pane asks for. -/
inductive PaneEvent where
  /-- Nothing changed. -/
  | none
  /-- The label is selected. -/
  | selected (key : LabelKey)
  /-- Open or close the label. -/
  | toggle (key : LabelKey)
  /-- Change between all fields and the filtered ones. -/
  | toggleVariant
  /-- The rule cursor is at this offset. -/
  | cursorMoved (offset : Nat)
deriving DecidableEq, Repr

/-- The selection of the tree pane. -/
structure TreePane where
  selected : Option LabelKey
  /-- The row of the selection at the last key press. -/
  lastIndex : Nat
deriving DecidableEq, Repr

namespace TreePane

/-- Nothing selected yet. -/
def initial : TreePane := ⟨none, 0⟩

/-- The index of the selection among the rows. -/
def selectedIndex (pane : TreePane) (model : Model) : Option Nat :=
  if model.rows.isEmpty then none
  else
    (pane.selected.bind model.rowIndex).or (some (min pane.lastIndex (model.rows.length - 1)))

/-- Selects a label. -/
def select (pane : TreePane) (key : LabelKey) (model : Model) : TreePane :=
  ⟨some key, (model.rowIndex key).getD pane.lastIndex⟩

/-- Selects the row with this index, if there is one. -/
def selectIndex (pane : TreePane) (index : Nat) (model : Model) : PaneEvent × TreePane :=
  match model.rows[index]? with
  | some row => (.selected row.key, ⟨some row.key, index⟩)
  | none => (.none, pane)

/-- The arrow keys, Home and End move; Left, Right and Enter ask for a toggle where there is
something to close or to open; `v` asks for the other variant. -/
def handleKey (pane : TreePane) (key : KeyPress) (model : Model) : PaneEvent × TreePane :=
  match pane.selectedIndex model with
  | none => (.none, pane)
  | some current =>
    match model.rows[current]? with
    | none => (.none, pane)
    | some row =>
      match key.code with
      | .up => if 0 < current then pane.selectIndex (current - 1) model else (.none, pane)
      | .down => pane.selectIndex (current + 1) model
      | .home => pane.selectIndex 0 model
      | .endOfLine => pane.selectIndex (model.rows.length - 1) model
      -- the pane tells what was asked for; the application does it and keeps the row selected
      | .left => (if row.toggle = .opened then .toggle row.key else .none, pane)
      | .right => (if row.toggle = .closed then .toggle row.key else .none, pane)
      | .enter => (if row.toggle.isToggleable then .toggle row.key else .none, pane)
      | .char 'v' => (.toggleVariant, pane)
      | _ => (.none, pane)

end TreePane

end TreeOutline
