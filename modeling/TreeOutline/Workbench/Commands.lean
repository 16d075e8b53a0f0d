import TreeOutline.Shell.Run
import TreeOutline.Text.Octets
import TreeOutline.Tree.Load

namespace TreeOutline

/-!
# Parsers and transformers

A source may be a tree already.  Otherwise a command gets it as its input, and what it prints is the
result; it fails with any status but zero.

* `parseAsTree` — the tree that a source is.
* `commandOutput` — what a command prints.
* `parseByCommand` — the tree that a command prints.
* `transformByCommand` — the text that a command prints, which may use the rule from a file.
-/

/-- Reads a source that is a tree already. -/
def parseAsTree (format : TreeFormat) (source : String) : Except ToolProblem Value :=
  (loadTree format source).mapError .tree

/-- What a command prints for an input, with some files at hand. -/
def commandOutput (command input : String) (files : List (String × String)) :
    Except ToolProblem String :=
  if command.toList.contains '\x00' then
    .error (.spawn command "nul byte found in provided data")
  else
    let files := files.map fun (path, text) => (path, octets text)
    let result := Shell.run (octets command) (octets input) files
    match result.status with
    | some 0 =>
      match decodeText? (octetBytes result.stdout) with
      | some text => .ok text
      | none => .error (.output s!"`{command}` printed non-UTF-8 output")
    | status =>
      .error (.failed command (status.map Int.ofNat) (decodeLossy (octetBytes result.stderr)))

/-- Parses a source by a command that prints a tree. -/
def parseByCommand (command source : String) : Except ToolProblem Value := do
  let text ← commandOutput command source []
  (loadTree .json text).mapError .tree

/-- What stands for the rule's file in a command. -/
def rulePlaceholder : String := "\x7brule\x7d"

/-- The file that holds the rule while a command runs. -/
def rulePath : String := "/tmp/astview-rule-Qx4tZa.js"

/-- Transforms a source by a command that may read the rule from a file. -/
def transformByCommand (command source rule : String) : Except ToolProblem String :=
  commandOutput (command.replace rulePlaceholder rulePath) source [(rulePath, rule)]

end TreeOutline
