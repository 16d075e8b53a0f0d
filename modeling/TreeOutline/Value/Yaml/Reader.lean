import TreeOutline.Value.Yaml.Schema

namespace TreeOutline

/-!
# Reading YAML

* `Yaml.Node.value?` — the value of a node.
* `Yaml.read` — the value of a text's only document.
-/

namespace Yaml

/-- How deep lists and maps may be nested. -/
def depthLimit : Nat := 128

/-- What readers of nodes share: the anchored nodes, and how many aliases may be followed in all. -/
structure Aliases where
  targets : List (Nat × Node)
  limit : Nat

namespace Aliases

/-- The aliases of a document; of two nodes with one number the later one counts. -/
def ofNode (node : Node) : Aliases := ⟨node.targets.reverse, 100 * node.size⟩

/-- Follows an alias, after `used` others. -/
def follow? (aliases : Aliases) (number used : Nat) : Option (Node × Nat) :=
  if used < aliases.limit then
    (aliases.targets.lookup number).map fun node => (node, used + 1)
  else none

end Aliases

namespace Node

/-- What an alias stands for; every other node stands for itself. -/
def resolve (aliases : Aliases) : Node → StateT Nat Option Node
  | .alias number => aliases.follow? number
  | node => pure node

/-- The text of a node that is a key: a scalar, whatever its tag and style. -/
def keyText? (aliases : Aliases) (node : Node) : StateT Nat Option String := do
  match ← node.resolve aliases with
  | .scalar _ _ text => pure text
  | _ => failure

/-- The value of a node whose lists and maps are nested no deeper than `depth`.  Of entries with one
key the last counts, in the first one's place. -/
def value? (aliases : Aliases) : (depth : Nat) → Node → StateT Nat Option Value
  -- too deep: only a scalar is still read
  | 0, node => do
    match ← node.resolve aliases with
    | .scalar properties isPlain text => scalarValue? properties.tag isPlain text
    | _ => failure
  | depth + 1, node => do
    match ← node.resolve aliases with
    | .scalar properties isPlain text => scalarValue? properties.tag isPlain text
    | .list properties items =>
      if properties.tag.any (·.startsWith "!") then failure
      else return .list (← items.mapM (value? aliases depth))
    | .map properties entries =>
      if properties.tag.any (·.startsWith "!") then failure
      else return .map (← entries.foldlM (fun fields (key, value) => do
        let name ← keyText? aliases key
        let value ← value? aliases depth value
        pure (Value.put name value fields)) [])
    | .alias _ => failure

end Node

/-- The value of a text's only document; an empty text counts as null. -/
def read (text : String) : Option Value := do
  match ← document? text with
  | none => some .null
  | some node => (node.value? (.ofNode node) depthLimit).run' 0

end Yaml

end TreeOutline
