import TreeOutline.Text.Blank

namespace TreeOutline

/-!
# What can go wrong

* `TreeProblem` — a tree that cannot be read.
* `ToolProblem` — a parser or a transformer that does not give a result.
* `TreeProblem.message`, `ToolProblem.message` — their wording.
-/

/-- A tree that cannot be read, with what its reader says. -/
inductive TreeProblem where
  | io (text : String)
  | json (text : String)
  | yaml (text : String)
deriving DecidableEq, Repr

/-- The wording of a tree problem. -/
def TreeProblem.message : TreeProblem → String
  | .io text => "IO error: " ++ text
  | .json text => "Invalid JSON tree: " ++ text
  | .yaml text => "Invalid YAML tree: " ++ text

/-- A tool that does not give a result. -/
inductive ToolProblem where
  /-- The command could not be started. -/
  | spawn (command text : String)
  /-- The command failed: its exit status, unless a signal ended it, and what it complained. -/
  | failed (command : String) (status : Option Int) (complaint : String)
  /-- The command succeeded, but what it printed cannot be used. -/
  | output (text : String)
  /-- What it printed is no tree. -/
  | tree (problem : TreeProblem)
deriving DecidableEq, Repr

/-- The wording of a tool problem; of a complaint the blanks around it are left out. -/
def ToolProblem.message : ToolProblem → String
  | .spawn command text => s!"Failed to run `{command}`: {text}"
  | .failed command status complaint =>
    match status, trimBlanks complaint with
    | some code, "" => s!"`{command}` exited with status {code}"
    | some code, text => s!"`{command}` exited with status {code}: {text}"
    | none, "" => s!"`{command}` was terminated by a signal"
    | none, text => s!"`{command}` was terminated: {text}"
  | .output text => "Unusable output: " ++ text
  | .tree problem => problem.message

end TreeOutline
