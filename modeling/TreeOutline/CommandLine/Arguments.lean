import TreeOutline.CommandLine.Command

namespace TreeOutline

/-!
# Reading a command line

An option without a value of its own takes the next word.  Its value is looked at only when the
next option or argument comes, or the end; what is wrong then is reported first, unless the word
that comes is itself unknown.

* `Arguments` — the argument and the options that are given.
* `UsageProblem` — what can be wrong with a command line; `UsageProblem.message` is its wording.
* `CommandSpec.read` — the arguments of a command line, or why the command goes no further.
-/

/-- What is given on a command line; an option that is only there has no value. -/
structure Arguments where
  argument : Option String
  options : List (String × Option String)
deriving DecidableEq, Repr

namespace Arguments

/-- Nothing given. -/
def none : Arguments := ⟨.none, []⟩

/-- Whether an option is given. -/
def has (args : Arguments) (name : String) : Bool := args.options.any (·.1 = name)

/-- The value that an option is given. -/
def value? (args : Arguments) (name : String) : Option String :=
  (args.options.lookup name).join

end Arguments

/-- What can be wrong with a command line. -/
inductive UsageProblem where
  | unexpectedArgument (word : String)
  | unexpectedValue (value option : String)
  | missingValue (option : String)
  | repeatedOption (option : String)
  | invalidValue (value option complaint : String)
  | missingArgument (argument : String)
deriving DecidableEq, Repr

/-- The wording of a usage problem. -/
def UsageProblem.message : UsageProblem → String
  | .unexpectedArgument word => s!"unexpected argument '{word}' found"
  | .unexpectedValue value option =>
    s!"unexpected value '{value}' for '{option}' found; no more were expected"
  | .missingValue option => s!"a value is required for '{option}' but none was supplied"
  | .repeatedOption option => s!"the argument '{option}' cannot be used multiple times"
  | .invalidValue value option complaint =>
    s!"invalid value '{value}' for '{option}': {complaint}"
  | .missingArgument argument =>
    s!"the following required arguments were not provided:\n  <{argument}>"

/-- Why a command goes no further than its command line. -/
inductive Stop where
  | help
  | version
  | helpOnError
  | usage (problem : UsageProblem)
deriving DecidableEq, Repr

/-- How a command ends that goes no further. -/
def CommandSpec.stopped (command : CommandSpec) : Stop → Outcome
  | .help => .success command.help
  | .version => .success s!"{command.program} {command.version}\n"
  | .helpOnError => ⟨2, "", command.help⟩
  | .usage problem =>
    ⟨2, "", s!"error: {problem.message}\n\n{command.usage}\n\n" ++
      "For more information, try '--help'.\n"⟩

/-- The arguments so far, and the option whose value has not been looked at, with that value if it
has come already. -/
structure Reading where
  args : Arguments
  pending : Option (OptionSpec × Option String)

namespace Reading

/-- Takes an option in, with its value or without. -/
def add (r : Reading) (option : OptionSpec) (value : Option String) : Except Stop Reading :=
  if r.args.has option.name then .error (.usage (.repeatedOption option.display))
  else .ok { r with args := { r.args with options := r.args.options ++ [(option.name, value)] } }

/-- Looks at the pending option's value: that it is there, the first, and as it should be. -/
def settle (r : Reading) : Except Stop Reading :=
  match r.pending with
  | none => .ok r
  | some (option, none) => .error (.usage (.missingValue option.display))
  | some (option, some value) => do
    let r ← add { r with pending := none } option value
    match option.kind with
    | .value complaint _ =>
      match complaint value with
      | some text => .error (.usage (.invalidValue value option.display text))
      | none => .ok r
    | _ => .ok r

/-- Takes an option that takes no value. -/
def takeFlag (r : Reading) (option : OptionSpec) : Except Stop Reading := do
  let r ← r.settle
  match option.kind with
  | .help => .error .help
  | .version => .error .version
  | _ => r.add option none

/-- Takes an option with a value, which may be attached to it or still to come. -/
def takeOption (r : Reading) (option : OptionSpec) (attached : Option String) :
    Except Stop Reading := do
  let r ← r.settle
  let r := { r with pending := some (option, attached) }
  if attached.isSome then r.settle else .ok r

/-- Takes an argument; there may be only one. -/
def takeArgument (r : Reading) (word : String) : Except Stop Reading :=
  if r.args.argument.isSome then .error (.usage (.unexpectedArgument word))
  else do
    let r ← r.settle
    .ok { r with args := { r.args with argument := word } }

/-- The option that waits for the next word. -/
def waiting? (r : Reading) : Option OptionSpec :=
  match r.pending with
  | some (option, none) => some option
  | _ => none

/-- A word that is no option: the value that is waited for, or an argument. -/
def takeWord (r : Reading) (word : String) : Except Stop Reading :=
  match r.waiting? with
  | some option => .ok { r with pending := some (option, some word) }
  | none => r.takeArgument word

end Reading

/-- Whether letters read as a number without a sign: digits with a point or an exponent among
them, but not in front. -/
def isUnsignedNumber (letters : List Char) : Bool :=
  let rec go : (first dot exponent : Bool) → List Char → Bool
    | _, _, _, [] => true
    | first, dot, exponent, c :: rest =>
      if c.isDigit then go false dot exponent rest
      else if c = '.' ∧ ¬ dot ∧ ¬ exponent ∧ ¬ first then go false true exponent rest
      else if c = 'e' ∧ ¬ exponent ∧ ¬ first ∧ ¬ rest.isEmpty then go false dot true rest
      else false
  go true false false letters

namespace CommandSpec

/-- The options behind a single dash: letters of flags, up to one that takes the rest as its
value. -/
def readShort (command : CommandSpec) : List Char → Reading → Except Stop Reading
  | [], r => .ok r
  | letter :: rest, r =>
    match command.allOptions.find? (·.short = some letter) with
    | none => .error (.usage (.unexpectedArgument ("-" ++ String.singleton letter)))
    | some option =>
      if option.takesValue then
        r.takeOption option (match rest with
          | [] => none
          | '=' :: value => some (String.ofList value)
          | value => some (String.ofList value))
      else r.takeFlag option >>= readShort command rest

/-- The option behind two dashes, perhaps with an equals sign and a value. -/
def readLong (command : CommandSpec) (text : List Char) (r : Reading) : Except Stop Reading :=
  let name := String.ofList (text.takeWhile (· ≠ '='))
  let attached := match text.dropWhile (· ≠ '=') with
    | [] => none
    | _ :: value => some (String.ofList value)
  match command.allOptions.find? (·.name = name) with
  | none => .error (.usage (.unexpectedArgument ("--" ++ name)))
  | some option =>
    if option.takesValue then r.takeOption option attached
    else
      match attached with
      | some value => .error (.usage (.unexpectedValue value option.display))
      | none => r.takeFlag option

/-- One word of a command line, before the two dashes that end the options. -/
def readWord (command : CommandSpec) (word : String) (r : Reading) : Except Stop Reading :=
  let isNegativeValue (letters : List Char) : Bool :=
    isUnsignedNumber letters && r.waiting?.any fun option =>
      match option.kind with
      | .value _ negativeNumbers => negativeNumbers
      | _ => false
  match word.toList with
  | '-' :: '-' :: text => command.readLong text r
  | '-' :: letter :: rest =>
    if isNegativeValue (letter :: rest) then r.takeWord word
    else command.readShort (letter :: rest) r
  | _ => r.takeWord word

/-- The words of a command line. -/
def readWords (command : CommandSpec) : List String → Reading → Except Stop Reading
  | [], r => r.settle
  | word :: rest, r =>
    if word = "--" then (rest.foldlM Reading.takeArgument r) >>= Reading.settle
    else command.readWord word r >>= readWords command rest

/-- Reads a command line. -/
def read (command : CommandSpec) (words : List String) : Except Stop Arguments := do
  let r ← command.readWords words ⟨.none, none⟩
  let args := r.args
  if args.argument.isSome then .ok args
  else if command.helpWhenEmpty ∧ args.options.isEmpty then .error .helpOnError
  else .error (.usage (.missingArgument command.argument))

end CommandSpec

end TreeOutline
