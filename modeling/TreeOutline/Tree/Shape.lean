import TreeOutline.Value.Basic
import TreeOutline.Tree.Path

namespace TreeOutline

/-!
# The shape of a value

A map with a kind tag is a node: one construct of the language that was parsed.

* `TagKeys` — the field names that may carry a kind tag; `TagKeys.tagOf` — the tag of a map.
* `Shape`, `Value.shape` — whether a value is a node, a plain map, a list or a scalar.
* `Value.kind?` — the kind of a node; `Value.isTreeNode` — whether a field with this value holds
  child nodes.
* `Value.at?` — the value that a path leads to.
-/

/-- The field names that may carry a kind tag, the first one with a string value first. -/
structure TagKeys where
  names : List String
deriving DecidableEq, Repr

namespace TagKeys

/-- The usual tag fields. -/
def standard : TagKeys := ⟨["type", "kind"]⟩

instance : Inhabited TagKeys := ⟨standard⟩

/-- The kind tag of a map: the first string among its tag fields. -/
def tagOf (tags : TagKeys) (fields : List (String × Value)) : Option String :=
  tags.names.findSome? fun name => (fields.lookup name).bind Value.asString?

end TagKeys

/-- What a value is to the outline. -/
inductive Shape where
  /-- A map with a kind tag. -/
  | node (kind : String) (fields : List (String × Value))
  /-- A map without a kind tag. -/
  | aggregate (fields : List (String × Value))
  | sequence (items : List Value)
  | primitive (scalar : Value)

namespace Value

/-- The shape of a value. -/
def shape (tags : TagKeys) : Value → Shape
  | .map fields =>
    match tags.tagOf fields with
    | some kind => .node kind fields
    | none => .aggregate fields
  | .list items => .sequence items
  | scalar => .primitive scalar

/-- The kind of a value that is a node. -/
def kind? (tags : TagKeys) : Value → Option String
  | .map fields => tags.tagOf fields
  | _ => none

/-- Whether a field with this value holds child nodes: a node, or a list that starts with one. -/
def isTreeNode (tags : TagKeys) : Value → Bool
  | .list [] => false
  | .list (first :: _) => (first.kind? tags).isSome
  | value => (value.kind? tags).isSome

/-- The value one step down. -/
def child? : Value → Step → Option Value
  | .map fields, .field name => fields.lookup name
  | .list items, .index i => items[i]?
  | _, _ => none

/-- The value that a path leads to. -/
def at? (value : Value) : Path → Option Value
  | [] => some value
  | step :: rest => (value.child? step).bind (·.at? rest)

@[simp] theorem at?_nil (value : Value) : value.at? [] = some value := rfl

@[simp] theorem at?_cons (value : Value) (step : Step) (rest : Path) :
    value.at? (step :: rest) = (value.child? step).bind (·.at? rest) := rfl

/-- A path in two parts leads where the second part leads from the end of the first. -/
theorem at?_append (value : Value) (first second : Path) :
    value.at? (first ++ second) = (value.at? first).bind (·.at? second) := by
  induction first generalizing value with
  | nil => rfl
  | cons step rest ih =>
    simp only [List.cons_append, at?_cons]
    cases value.child? step with
    | none => rfl
    | some next => simpa using ih next

end Value

end TreeOutline
