import TreeOutline.CommandLine.Arguments
import TreeOutline.CommandLine.LogFilter
import TreeOutline.Settings.Loader
import TreeOutline.Workbench.Commands
import TreeOutline.Workbench.Model

namespace TreeOutline

/-!
# The command that opens the workbench

* `workbenchCommand` — its command line.
* `OpeningProblem` — why the workbench cannot be opened; `OpeningProblem.message` is the wording.
* `withLogFile` — the configuration, and the files once the log is begun.
* `chosenTools` — the parser and the transformer that are asked for.
* `opening` — what the workbench is opened with; `Opening.model` — its model as it is shown first.
* `runWorkbench` — what the command does before it takes over the terminal.
-/

/-- The command line of the command. -/
def workbenchCommand : CommandSpec where
  program := "astv"
  version := "0.1.0"
  about := "Interactive workbench for syntax-tree transformations"
  argument := "source"
  argumentHelp := "Source file to parse and transform"
  options := [
    .text "rule" (some 'r') "File holding the transformation rule",
    ⟨"tree", none, "Treat the source file as an already parsed JSON or YAML tree", .flag⟩,
    .text "config" (some 'c') "Configuration file (default: ./astview.toml when present)"]
  helpWhenEmpty := false

/-- Why the workbench cannot be opened. -/
inductive OpeningProblem where
  | settings (problem : SettingsProblem)
  | logFile (path : String) (problem : FileProblem)
  | text (problem : FileProblem)
  | noParser
deriving DecidableEq, Repr

/-- The wording of an opening problem. -/
def OpeningProblem.message : OpeningProblem → String
  | .settings problem => "invalid configuration: " ++ problem.message
  | .logFile path problem => s!"cannot open log file {path}: {problem.message}"
  | .text problem => problem.message
  | .noParser => "no parser configured: pass --tree or set workbench.parser_command"

/-- The tools that are asked for: the source is read as a tree, or a configured command parses it,
and a configured command transforms it. -/
def chosenTools (args : Arguments) (config : Config) : Except OpeningProblem Tools :=
  let transform := config.workbench.transformCommand.map transformByCommand
  if args.has "tree" then
    .ok ⟨parseAsTree (.ofPath (args.argument.getD "")), transform⟩
  else
    match config.workbench.parserCommand with
    | some command => .ok ⟨parseByCommand command, transform⟩
    | none => .error .noParser

/-- What the workbench is opened with: the configuration, the source, the rule and the tools. -/
structure Opening where
  config : Config
  source : String
  rule : String
  tools : Tools

/-- What the workbench is opened with, once there is a log file. -/
def opening (files : Files) (args : Arguments) (config : Config) :
    Except OpeningProblem Opening := do
  let source ← (files.readText (args.argument.getD "")).mapError .text
  let rule ← match args.value? "rule" with
    | none => .ok ""
    | some path => (files.readText path).mapError .text
  let tools ← chosenTools args config
  pure ⟨config, source, rule, tools⟩

/-- The model as it is shown first: the tools have run once. -/
def Opening.model (opened : Opening) (now : Time) : Model :=
  let workbench := opened.config.workbench
  let session : Session :=
    .start opened.source opened.rule ⟨workbench.debounce, workbench.errorDebounce⟩
  (Model.ofSession session opened.config.tree.displayRules).recompute opened.tools now

/-- The configuration and the files with an empty log file among them; it is made before anything
else is read. -/
def withLogFile (files : Files) (args : Arguments) : Except OpeningProblem (Config × Files) := do
  let loader := Loader.new.withUserFile (args.value? "config")
  let config ← (loader.build files).mapError .settings
  let logFile := config.logging.file
  let files ← (files.create logFile).mapError (.logFile logFile)
  pure (config, files)

/-- Runs the command in a directory, up to the point where it takes over the terminal. -/
def runWorkbench (files : Files) (words : List String) : Outcome :=
  match workbenchCommand.read words with
  | .error stop => workbenchCommand.stopped stop
  | .ok args =>
    match withLogFile files args with
    | .error problem => .failure problem.message
    | .ok (config, files) =>
      let outcome : Outcome := match opening files args config with
        | .ok _ => .success ""
        | .error problem => .failure problem.message
      outcome.after (filterComplaints config.logging.filter)

end TreeOutline
