namespace TreeOutline

/-!
# Commands and their options

* `OptionSpec`, `CommandSpec` — what can be given on a command line.
* `CommandSpec.help` — the text that explains it.
* `Outcome` — how a command ends and what it prints.
-/

/-- How a command ends, and what it prints. -/
structure Outcome where
  code : Nat
  stdout : String
  stderr : String
deriving DecidableEq, Repr

namespace Outcome

/-- A command that does what it is asked for. -/
def success (stdout : String) : Outcome := ⟨0, stdout, ""⟩

/-- A command that cannot do what it is asked for. -/
def failure (message : String) : Outcome := ⟨1, "", s!"Error: {message}\n"⟩

/-- The outcome with lines of complaint before whatever is printed otherwise. -/
def after (outcome : Outcome) (complaints : List String) : Outcome :=
  { outcome with stderr := String.join (complaints.map (· ++ "\n")) ++ outcome.stderr }

end Outcome

/-- What an option does. -/
inductive OptionKind where
  /-- It takes a value; a complaint tells what is wrong with one.  Negative numbers may be allowed
  as values of their own. -/
  | value (complaint : String → Option String) (negativeNumbers : Bool)
  /-- It is there or not. -/
  | flag
  | help
  | version

/-- An option. -/
structure OptionSpec where
  name : String
  short : Option Char
  help : String
  kind : OptionKind

namespace OptionSpec

/-- An option with any text as its value. -/
def text (name : String) (short : Option Char) (help : String) : OptionSpec :=
  ⟨name, short, help, .value (fun _ => none) false⟩

/-- The option that asks for help. -/
def askHelp : OptionSpec := ⟨"help", some 'h', "Print help", .help⟩

/-- The option that asks for the version. -/
def askVersion : OptionSpec := ⟨"version", some 'V', "Print version", .version⟩

/-- Whether the option takes a value. -/
def takesValue (option : OptionSpec) : Bool :=
  match option.kind with
  | .value .. => true
  | _ => false

/-- How the option is named in messages. -/
def display (option : OptionSpec) : String :=
  "--" ++ option.name ++ (if option.takesValue then s!" <{option.name}>" else "")

end OptionSpec

/-- A command with one argument and options. -/
structure CommandSpec where
  program : String
  version : String
  about : String
  argument : String
  argumentHelp : String
  options : List OptionSpec
  /-- Whether the command explains itself when nothing is given. -/
  helpWhenEmpty : Bool

namespace CommandSpec

/-- The options of every command come last. -/
def allOptions (command : CommandSpec) : List OptionSpec :=
  command.options ++ [.askHelp, .askVersion]

/-- How the command is used. -/
def usage (command : CommandSpec) : String :=
  s!"Usage: {command.program} [OPTIONS] <{command.argument}>"

/-- The line that explains an option, in a column behind names of this width. -/
def optionHelp (width : Nat) (option : OptionSpec) : String :=
  let short := match option.short with
    | some c => "-" ++ String.singleton c ++ ", "
    | none => "    "
  let gap := String.ofList (List.replicate (width + 2 - option.display.length) ' ')
  "  " ++ short ++ option.display ++ gap ++ option.help

/-- The text that explains the command. -/
def help (command : CommandSpec) : String :=
  let width := command.allOptions.foldl (fun width option => max width option.display.length) 0
  "\n".intercalate <|
    [command.about, "", command.usage, "", "Arguments:",
      s!"  <{command.argument}>  {command.argumentHelp}", "", "Options:"] ++
    command.allOptions.map (optionHelp width) ++ [""]

end CommandSpec

end TreeOutline
