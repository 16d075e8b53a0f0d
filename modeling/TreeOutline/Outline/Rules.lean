import TreeOutline.Tree.Shape
import TreeOutline.Text.Case

namespace TreeOutline

/-!
# Display rules

* `Variant` — whether a node shows all its fields; `Variant.parse?` reads its name.
* `DisplayRules` — what is shown of a tree, and what starts open.
* `DisplayRules.startsOpen`, `DisplayRules.isActive`, `DisplayRules.showsField` — the questions
  that rendering asks.
-/

/-- Which fields of a node are shown. -/
inductive Variant where
  | all
  /-- Only fields that hold child nodes, and those named in the whitelist. -/
  | filtered
deriving DecidableEq, Repr, Inhabited

namespace Variant

/-- The other variant. -/
def toggle : Variant → Variant
  | .all => .filtered
  | .filtered => .all

@[simp] theorem toggle_toggle (v : Variant) : v.toggle.toggle = v := by cases v <;> rfl

/-- The name of a variant. -/
def text : Variant → String
  | .all => "all"
  | .filtered => "filtered"

/-- Reads a name in any case of its letters; an unknown one gives a message. -/
def parse? (name : String) : Except String Variant :=
  let lowered := asciiLower name
  if lowered = "all" ∨ lowered = "detail" then .ok .all
  else if lowered = "filtered" ∨ lowered = "node" then .ok .filtered
  else .error s!"unknown variant '{lowered}' (expected all or filtered)"

end Variant

/-- What is shown of a tree and how. -/
structure DisplayRules where
  variant : Variant
  /-- Labels at paths up to this length start open. -/
  openDepth : Int
  /-- Field names that are shown although they hold no child nodes. -/
  whitelist : List String
  /-- Nodes of this kind are marked. -/
  activeKind : Option String
  /-- The text that the tree was parsed from. -/
  sourceText : Option String
  tagKeys : TagKeys
deriving DecidableEq, Repr

namespace DisplayRules

/-- Filtered, all closed below the root, nothing marked. -/
def standard : DisplayRules := ⟨.filtered, 0, [], none, none, .standard⟩

instance : Inhabited DisplayRules := ⟨standard⟩

/-- Whether a label first shown at `path` starts open. -/
def startsOpen (rules : DisplayRules) (path : Path) : Bool :=
  decide ((path.length : Int) ≤ rules.openDepth)

/-- Whether nodes of the kind are marked. -/
def isActive (rules : DisplayRules) (kind : String) : Bool := rules.activeKind == some kind

/-- Whether a node shows the field. -/
def showsField (rules : DisplayRules) (name : String) (value : Value) : Bool :=
  match rules.variant with
  | .all => true
  | .filtered => value.isTreeNode rules.tagKeys || rules.whitelist.contains name

end DisplayRules

end TreeOutline
