import TreeOutline.Shell.Tool.Basic

namespace TreeOutline

/-!
# Parts of paths

* `Shell.basename`, `Shell.dirname` — the last part of a path and what stands in front of it.
-/

namespace Shell

/-- The last part of a path, without an ending that is named. -/
def basename (task : Task) : Report :=
  let base (path : String) : String :=
    (pathParts path).getLast?.getD (if path.isEmpty then "" else "/")
  let without (ending name : String) : String :=
    if name ≠ ending ∧ name.endsWith ending then (name.dropEnd ending.length).toString else name
  let answer (ending : String) (paths : List String) : Report :=
    .answering task ("".intercalate (paths.map fun path => without ending (base path) ++ "\n"))
  let table : OptionTable := ⟨"az", "s", [("multiple", 'a'), ("suffix", 's')]⟩
  task.withOptions "basename" 1 table fun options paths =>
    match optionValue? options 's', hasOption options 'a', paths with
    | _, _, [] => .misused task "basename" 1 "missing operand"
    | some ending, _, paths => answer ending paths
    | none, true, paths => answer "" paths
    | none, false, [path] => answer "" [path]
    | none, false, [path, ending] => answer ending [path]
    | none, false, _ :: _ :: third :: _ =>
      .misused task "basename" 1 s!"extra operand '{third}'"

/-- A path without its last part. -/
def dirname (task : Task) : Report :=
  let dir (path : String) : String :=
    let parts := (pathParts path).dropLast
    let text := "/".intercalate parts
    if path.startsWith "/" then "/" ++ text else if parts.isEmpty then "." else text
  match task.words with
  | [] => .misused task "dirname" 1 "missing operand"
  | paths => .answering task ("".intercalate (paths.map fun path => dir path ++ "\n"))

end Shell

end TreeOutline
