import TreeOutline.Outline.Visual

namespace TreeOutline

/-!
# Rows and text

* `Row` — one label as a line of its own; `Row.text` — the line without its indentation.
* `Visual.rows` — all labels from top to bottom.
* `Visual.text` — one line per row, two blanks per level.
-/

/-- One visible label. -/
structure Row where
  key : LabelKey
  /-- How deep the label is nested among labels; the root's level is zero. -/
  level : Nat
  /-- The kind of a node or the name of a field. -/
  label : String
  /-- What a field without children shows after its name. -/
  detail : Option String
  toggle : Toggle
  active : Bool
  snippet : Option String
  /-- The number of items of a group. -/
  count : Option Nat
deriving DecidableEq, Repr

namespace Body

/-- What a group shows after its name. -/
def detail : Body → Option String
  | .literal text => some text
  | .empty => some "[]"
  | .children .. => none

/-- The number of items of a group that is a list or a map. -/
def count : Body → Option Nat
  | .literal _ => none
  | .empty => some 0
  | .children _ count _ => some count

end Body

mutual

/-- The labels of a visual, the outermost of them at `level`. -/
def Visual.rowsAt : Visual → (level : Nat) → List Row
  | .empty, _ => []
  | .node path _ kind toggle active snippet groups, level =>
    ⟨⟨.node, path⟩, level, kind, none, toggle, active, snippet, none⟩ ::
      groupRows groups (level + 1)
  | .fragment groups, level => groupRows groups level

/-- The labels of a group: its name, and one level deeper its items. -/
def Group.rowsAt : Group → (level : Nat) → List Row
  | .mk path _ name body, level =>
    ⟨⟨.group, path⟩, level, name, body.detail, body.toggle, false, none, body.count⟩ ::
      body.rowsAt (level + 1)

/-- The labels of a group's items. -/
def Body.rowsAt : Body → (level : Nat) → List Row
  | .literal _, _ => []
  | .empty, _ => []
  | .children _ _ items, level => itemRows items level

/-- The labels of groups one after the other. -/
def groupRows : List Group → (level : Nat) → List Row
  | [], _ => []
  | group :: rest, level => group.rowsAt level ++ groupRows rest level

/-- The labels of items one after the other. -/
def itemRows : List Visual → (level : Nat) → List Row
  | [], _ => []
  | visual :: rest, level => visual.rowsAt level ++ itemRows rest level

end

/-- All labels from top to bottom. -/
def Visual.rows (visual : Visual) : List Row := visual.rowsAt 0

namespace Row

/-- A star before the label of a marked node, then what the field shows or the toggle's mark. -/
def text (row : Row) : String :=
  let label := (if row.active then "*" else "") ++ row.label
  match row.detail, row.toggle.mark? with
  | some detail, _ => label ++ ": " ++ detail
  | none, some mark => label ++ " " ++ mark
  | none, none => label

/-- Two blanks per level. -/
def indentation (row : Row) : String := String.ofList (List.replicate (2 * row.level) ' ')

/-- The row as a line. -/
def line (row : Row) : String := row.indentation ++ row.text

end Row

/-- One line per row, each with its end. -/
def Visual.text (visual : Visual) : String :=
  String.join (visual.rows.map fun row => row.line ++ "\n")

end TreeOutline
