import TreeOutline.CommandLine.Arguments
import TreeOutline.CommandLine.Integer
import TreeOutline.CommandLine.LogFilter
import TreeOutline.Outline.Render
import TreeOutline.Outline.Row
import TreeOutline.Settings.Loader
import TreeOutline.Tree.Load

namespace TreeOutline

/-!
# The command that prints an outline

* `printCommand` — its command line.
* `PrintProblem` — why it cannot print; `PrintProblem.message` is the wording.
* `outlineText` — the outline of a tree by the configured rules and the options.
* `runPrint` — what the command does in a directory.
-/

/-- What is wrong with a text that a reader refuses. -/
def complaintOf {α : Type} (read : String → Except String α) (text : String) : Option String :=
  match read text with
  | .ok _ => none
  | .error complaint => some complaint

/-- Integers of 32 bits. -/
def readDepth : String → Except String Int := readInteger .signed32

/-- The command line of the command. -/
def printCommand : CommandSpec where
  program := "astview"
  version := "0.1.0"
  about := "Print a parsed syntax tree as collapsible indented text"
  argument := "tree"
  argumentHelp := "JSON or YAML file holding the tree"
  options := [
    .text "source" (some 's') "Source text the tree was parsed from, for snippets",
    ⟨"variant", none, "Fields to show: all, or child nodes plus the whitelist",
      .value (complaintOf Variant.parse?) false⟩,
    ⟨"depth", some 'd', "Labels with a path up to this long start open (-1: all closed)",
      .value (complaintOf readDepth) true⟩,
    .text "whitelist" (some 'w')
      "Comma-separated primitive fields shown by the filtered variant",
    .text "active" (some 'a') "Mark nodes of this kind",
    ⟨"format", some 'f', "Tree format (default: from the file extension)",
      .value (complaintOf TreeFormat.parse?) false⟩,
    .text "config" (some 'c') "Configuration file (default: ./astview.toml when present)"]
  helpWhenEmpty := true

/-- Why an outline cannot be printed. -/
inductive PrintProblem where
  | settings (problem : SettingsProblem)
  | tree (problem : TreeProblem)
  | source (path : String) (problem : FileProblem)
deriving DecidableEq, Repr

/-- The wording of a print problem. -/
def PrintProblem.message : PrintProblem → String
  | .settings problem => "Invalid configuration: " ++ problem.message
  | .tree problem => problem.message
  | .source path problem => s!"Cannot read source {path}: {problem.message}"

/-- The value of an option by its reader; the command line holds none that the reader refuses. -/
def Arguments.read? {α : Type} (args : Arguments) (name : String)
    (read : String → Except String α) : Option α :=
  (args.value? name).bind fun text => (read text).toOption

/-- The names of a list with commas between them; empty ones do not count. -/
def namesOf (text : String) : List String := (text.splitOn ",").filter (· ≠ "")

/-- The configured rules, changed by the options. -/
def printRules (config : Config) (args : Arguments) (source : Option String) : DisplayRules :=
  let rules := config.tree.displayRules
  { rules with
    variant := (args.read? "variant" Variant.parse?).getD rules.variant
    openDepth := (args.read? "depth" readDepth).getD rules.openDepth
    whitelist := ((args.value? "whitelist").map namesOf).getD rules.whitelist
    activeKind := args.value? "active"
    sourceText := source }

/-- The tree in a file, by a format or by the name of the file. -/
def loadTreeFile (files : Files) (path : String) (format : Option TreeFormat) :
    Except TreeProblem Value := do
  let text ← (files.readText path).mapError fun problem => .io problem.message
  loadTree (format.getD (.ofPath path)) text

/-- The outline of a tree that has not been shown before. -/
def outlineText (rules : DisplayRules) (tree : Value) : String :=
  (renderRoot rules (some tree) .empty).1.text

/-- What is printed for what the command line gives, under a configuration. -/
def printed (files : Files) (args : Arguments) (config : Config) : Except PrintProblem String := do
  let format := args.read? "format" TreeFormat.parse?
  let tree ← (loadTreeFile files (args.argument.getD "") format).mapError .tree
  let source ← match args.value? "source" with
    | none => .ok none
    | some path => ((files.readText path).mapError (PrintProblem.source path)).map some
  pure (outlineText (printRules config args source) tree)

/-- Runs the command in a directory. -/
def runPrint (files : Files) (words : List String) : Outcome :=
  match printCommand.read words with
  | .error stop => printCommand.stopped stop
  | .ok args =>
    match (Loader.new.withUserFile (args.value? "config")).build files with
    | .error problem => .failure (PrintProblem.settings problem).message
    | .ok config =>
      let outcome : Outcome := match printed files args config with
        | .ok text => .success text
        | .error problem => .failure problem.message
      outcome.after (filterComplaints config.logging.filter)

end TreeOutline
