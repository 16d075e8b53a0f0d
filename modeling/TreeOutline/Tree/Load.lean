import TreeOutline.Tree.Format
import TreeOutline.Value.Json.Reader
import TreeOutline.Value.Yaml.Reader
import TreeOutline.Workbench.Problem

namespace TreeOutline

/-!
# Loading trees

* `loadTree` — the tree that a text in a format stands for.
-/

/-- The tree that a text stands for. -/
def loadTree (format : TreeFormat) (text : String) : Except TreeProblem Value :=
  match format with
  | .json => (Json.read text).mapError fun fault => .json fault.message
  | .yaml =>
    match Yaml.read text with
    | some value => .ok value
    | none => .error (.yaml "not a tree")

end TreeOutline
