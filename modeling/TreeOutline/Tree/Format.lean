import TreeOutline.Text.Case

namespace TreeOutline

/-!
# Document formats

* `TreeFormat` — how a tree is written down; `TreeFormat.parse?` reads the name of a format.
* `TreeFormat.ofPath` — the format that the extension of a file name suggests.
-/

/-- How a tree is written down. -/
inductive TreeFormat where
  | json
  | yaml
deriving DecidableEq, Repr, Inhabited

/-- The last part of a file path that names something: parts that are empty or a single point
are passed over, and a path that ends with the parent directory has none. -/
def fileName? (path : String) : Option String :=
  match ((path.splitOn "/").filter fun part => part ≠ "" ∧ part ≠ ".").getLast? with
  | some ".." => none
  | last => last

/-- What follows the last point of a file's name, unless the name starts with that point. -/
def extension? (path : String) : Option String := do
  let name := (← fileName? path).toList.reverse
  let ending := name.takeWhile (· ≠ '.')
  if ending.length + 1 < name.length then some (String.ofList ending.reverse) else none

namespace TreeFormat

/-- The name of a format. -/
def text : TreeFormat → String
  | .json => "json"
  | .yaml => "yaml"

/-- Reads a name in any case of its letters; an unknown one gives a message. -/
def parse? (name : String) : Except String TreeFormat :=
  let lowered := asciiLower name
  if lowered = "json" then .ok .json
  else if lowered = "yaml" ∨ lowered = "yml" then .ok .yaml
  else .error s!"unknown tree format '{lowered}' (expected json or yaml)"

/-- The format of a file by its extension; JSON unless that names the other one. -/
def ofPath (path : String) : TreeFormat :=
  match (extension? path).map asciiLower with
  | some "yaml" | some "yml" => .yaml
  | _ => .json

end TreeFormat

end TreeOutline
