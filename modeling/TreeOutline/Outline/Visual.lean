import TreeOutline.Outline.Expansion

namespace TreeOutline

/-!
# The rendered outline

* `Toggle` — whether a label can be opened, and whether it is.
* `Visual`, `Group`, `Body` — labelled nodes, the groups of their fields, and what a group shows
  under its name.  What is closed has nothing below it.
-/

/-- The toggle of a label. -/
inductive Toggle where
  /-- There is nothing to open. -/
  | static
  | opened
  | closed
deriving DecidableEq, Repr, Inhabited

namespace Toggle

/-- The toggle of a label that can be opened. -/
def ofOpen (isOpen : Bool) : Toggle := if isOpen then .opened else .closed

/-- Whether the label is open. -/
def isOpen : Toggle → Bool
  | .opened => true
  | _ => false

/-- Whether the label can be opened or closed. -/
def isToggleable : Toggle → Bool
  | .static => false
  | _ => true

/-- The mark of a label that can be opened (`+`) or closed (`-`). -/
def mark? : Toggle → Option String
  | .static => none
  | .opened => some "-"
  | .closed => some "+"

/-- Only an open toggle is open; a static label is not. -/
theorem isOpen_eq_true_iff {toggle : Toggle} : toggle.isOpen = true ↔ toggle = .opened := by
  cases toggle <;> simp [isOpen]

@[simp] theorem isOpen_ofOpen (b : Bool) : (ofOpen b).isOpen = b := by cases b <;> rfl

@[simp] theorem isToggleable_ofOpen (b : Bool) : (ofOpen b).isToggleable = true := by
  cases b <;> rfl

end Toggle

mutual

/-- What a value looks like. -/
inductive Visual where
  /-- Nothing: a scalar, or no tree at all. -/
  | empty
  /-- A node: its label, and the groups of its visible fields while it is open. -/
  | node (path : Path) (depth : Nat) (kind : String) (toggle : Toggle) (active : Bool)
      (snippet : Option String) (groups : List Group)
  /-- A map without a kind, or a list: the groups without a label of their own. -/
  | fragment (groups : List Group)

/-- What a field looks like. -/
inductive Group where
  | mk (path : Path) (depth : Nat) (name : String) (body : Body)

/-- What a field shows under its name. -/
inductive Body where
  /-- The text of a scalar or of an absent value. -/
  | literal (text : String)
  /-- A list without items. -/
  | empty
  /-- The number of items, and the items while the group is open. -/
  | children (isOpen : Bool) (count : Nat) (items : List Visual)

end

deriving instance Repr for Visual, Group, Body

instance : Inhabited Visual := ⟨.empty⟩

namespace Body

/-- The toggle of a group with this body. -/
def toggle : Body → Toggle
  | .children isOpen _ _ => .ofOpen isOpen
  | _ => .static

end Body

namespace Group

/-- The path of the group: that of its parent and the name of the field. -/
def path : Group → Path
  | .mk path _ _ _ => path

/-- The depth of the group. -/
def depth : Group → Nat
  | .mk _ depth _ _ => depth

/-- The name of the field. -/
def name : Group → String
  | .mk _ _ name _ => name

/-- What the group shows under its name. -/
def body : Group → Body
  | .mk _ _ _ body => body

/-- The toggle of the group's label. -/
def toggle (group : Group) : Toggle := group.body.toggle

/-- The key of the group's label. -/
def key (group : Group) : LabelKey := ⟨.group, group.path⟩

end Group

namespace Visual

/-- Whether nothing is shown. -/
def isEmpty : Visual → Bool
  | .empty => true
  | .fragment groups => groups.isEmpty
  | .node .. => false

end Visual

end TreeOutline
