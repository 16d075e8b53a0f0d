import TreeOutline.Shell.Tool.Formats

namespace TreeOutline

/-!
# Tools that run others

These tools take options, and behind them the command that they run.

* `Shell.OptionTable.front` — options in front of a command.
* `Shell.launch?` — the command behind the options of a tool that only changes how it is run.
* `Shell.callWords`, `Shell.Calls.all` — words from an input, and the commands made with them, which
  lose none of the words (`Shell.flatMap_all`).
* `Shell.calls` — what is run for an input.
-/

namespace Shell

/-! ### Options in front of a command -/

namespace OptionTable

/-- Splits words into the options in front and what is behind them.  The letters in `loose` take
what is left of their word, even if that is nothing. -/
def front (table : OptionTable) (loose : List Char) : (fuel : Nat) → List String →
    Except OptionFault SplitWords
  | 0, words => .ok ([], words)
  | fuel + 1, words =>
    let withOption (letter : Char) (value : String) (rest : List String) :
        Except OptionFault SplitWords :=
      (front table loose fuel rest).map fun (options, words) => ((letter, value) :: options, words)
    match words with
    | [] => .ok ([], [])
    | word :: rest =>
      match word.toList with
      | ['-', '-'] => .ok ([], rest)
      | '-' :: '-' :: long =>
        let name := long.takeWhile (· ≠ '=')
        let value := long.drop name.length
        match table.long.find? fun (text, _) => name.isPrefixOf text.toList with
        | none => .error (.unknownName word)
        | some (text, letter) =>
          match table.valued.toList.contains letter, value, rest with
          | false, value, rest => withOption letter (String.ofList (value.drop 1)) rest
          | true, _ :: value, rest => withOption letter (String.ofList value) rest
          | true, [], next :: rest => withOption letter next rest
          | true, [], [] => .error (.missingValueOf text)
      | '-' :: letter :: more =>
        if loose.contains letter then withOption letter (String.ofList more) rest
        else if table.valued.toList.contains letter then
          match more, rest with
          | [], [] => .error (.missingValue letter)
          | [], value :: rest => withOption letter value rest
          | more, rest => withOption letter (String.ofList more) rest
        else if table.flags.toList.contains letter then
          withOption letter ""
            (if more.isEmpty then rest else String.ofList ('-' :: more) :: rest)
        else .error (.unknown letter)
      | _ => .ok ([], words)

end OptionTable

/-- The options in front of a task's words, or the wording of a fault. -/
def frontOptions (tool : String) (table : OptionTable) (loose : List Char) (words : List String) :
    Except String SplitWords :=
  match table.front loose (words.foldl (fun n word => n + word.length + 1) 1) words with
  | .ok split => .ok split
  | .error fault => .error s!"{tool}: {fault.message}\nTry '{tool} --help' for more information."

/-! ### Changing how a command is run -/

/-- What a tool is to do that only changes how a command is run: it runs one, prints something
itself, or cannot be asked like this. -/
inductive Launch where
  | run (command : List String)
  | answer (text : String)
  | refuse (status : Nat) (text : String)

/-- The use of a tool that only changes how a command is run. -/
def launch? (tool : String) (words : List String) : Option Launch :=
  let help := s!"Try '{tool} --help' for more information."
  let withOptions (table : OptionTable) (use : List (Char × String) → List String → Launch) :
      Launch :=
    match frontOptions tool table [] words with
    | .ok (options, command) => use options command
    | .error text => .refuse 125 text
  match tool with
  | "nohup" =>
    some (withOptions ⟨"", "", []⟩ fun _ command =>
      if command.isEmpty then .refuse 125 s!"{tool}: missing operand\n{help}" else .run command)
  | "nice" =>
    let words := words.flatMap fun word =>
      match word.toList with
      | '-' :: c :: more =>
        if c.isDigit then ["-n", String.ofList (c :: more)] else [word]
      | _ => [word]
    some <| match frontOptions tool ⟨"", "n", [("adjustment", 'n')]⟩ [] words with
      | .error text => .refuse 125 text
      | .ok (options, command) =>
        let value := (optionValue? options 'n').getD "10"
        if (decimal? value).isNone then .refuse 125 s!"{tool}: invalid adjustment '{value}'"
        else if ¬ command.isEmpty then .run command
        else if options.isEmpty then .answer "0\n"
        else .refuse 125 s!"{tool}: a command must be given with an adjustment\n{help}"
  | "setsid" =>
    some (withOptions ⟨"cfw", "", [("ctty", 'c'), ("fork", 'f'), ("wait", 'w')]⟩ fun _ command =>
      if command.isEmpty then .refuse 1 s!"{tool}: no command specified\n{help}"
      else .run command)
  | "stdbuf" =>
    some (withOptions ⟨"", "ioe", [("input", 'i'), ("output", 'o'), ("error", 'e')]⟩
      fun options command =>
        if command.isEmpty then .refuse 125 s!"{tool}: missing operand\n{help}"
        else if options.isEmpty then
          .refuse 125 s!"{tool}: you must specify a buffering mode option\n{help}"
        else .run command)
  | "timeout" =>
    some (withOptions ⟨"fpv", "ks", [("foreground", 'f'), ("preserve-status", 'p'),
        ("verbose", 'v'), ("kill-after", 'k'), ("signal", 's')]⟩ fun _ words =>
      match words with
      | time :: command :: more =>
        let (digits, unit) := (time.toList.takeWhile fun c => c.isDigit || c == '.',
          time.toList.dropWhile fun c => c.isDigit || c == '.')
        if digits.isEmpty ∨ unit ∉ [[], ['s'], ['m'], ['h'], ['d']] then
          .refuse 125 s!"{tool}: invalid time interval '{time}'\n{help}"
        else .run (command :: more)
      | _ => .refuse 125 help)
  | _ => none

/-! ### Words from an input -/

/-- Where in a text words are read: between words, in one, behind a backslash, in quotes. -/
inductive CallPlace where
  | between
  | inside
  | masked
  | quoted (mark : Char)
deriving DecidableEq

/-- A word for a command, and whether a line ends with it. -/
abbrev CallWord := List Char × Bool

/-- Reads words between blanks, or whole lines.  A backslash masks a character, quotes mask what is
between them on a line; the second result is the quote that lacks its other one. -/
def callWords (wholeLines : Bool) : (place : CallPlace) → (before : Char) → (begun : Bool) →
    (word : List Char) → List Char → List CallWord × Option Char
  | .quoted mark, _, _, _, [] => ([], some mark)
  | _, _, begun, word, [] =>
    (if word.isEmpty ∧ ¬ begun then [] else [(word.reverse, false)], none)
  | place, before, begun, word, c :: rest =>
    let further (place : CallPlace) (begun : Bool) (word : List Char) :
        List CallWord × Option Char :=
      callWords wholeLines place c begun word rest
    let complete (endsLine : Bool) : List CallWord × Option Char :=
      let (words, fault) := further .between false []
      ((word.reverse, endsLine) :: words, fault)
    match place with
    | .masked => further .inside true (c :: word)
    | .quoted mark =>
      if c = '\n' then ([], some mark)
      else if c = mark then further .inside true word
      else further place begun (c :: word)
    | place =>
      if place = .between ∧ isSpaceByte c then further .between begun word
      else if c = '\n' then complete (before ≠ ' ' ∧ before ≠ '\t')
      else if isSpaceByte c ∧ ¬ wholeLines then complete false
      else if c = '\\' then further .masked true word
      else if c = '\'' ∨ c = '"' then further (.quoted c) true word
      else further .inside true (c :: word)

/-- Groups words so that each group but the last one has a number of line ends. -/
def groupByLines (size : Nat) : (count : Nat) → List CallWord → List (List CallWord)
  | _, [] => []
  | count, (word, endsLine) :: rest =>
    let count := if endsLine then count + 1 else count
    if size ≤ count then [(word, endsLine)] :: groupByLines size 0 rest
    else
      match groupByLines size count rest with
      | [] => [[(word, endsLine)]]
      | group :: groups => ((word, endsLine) :: group) :: groups

/-- Groups leave no word out. -/
theorem flatten_groupByLines (size count : Nat) (words : List CallWord) :
    (groupByLines size count words).flatten = words := by
  induction words generalizing count with
  | nil => simp [groupByLines]
  | cons word words ih =>
    obtain ⟨word, endsLine⟩ := word
    have hrest := ih (if endsLine then count + 1 else count)
    rw [groupByLines]
    generalize (if endsLine = true then count + 1 else count) = next at hrest ⊢
    split
    · simp [ih]
    · split
      next hnone =>
        rw [hnone] at hrest
        simpa using hrest
      next group groups hgroups =>
        rw [hgroups] at hrest
        simpa using hrest

/-- How commands are made with words: those in front, what is replaced by a line, how many words or
lines each of them gets, and whether there is one without any. -/
structure Calls where
  command : List String
  replaced : Option String
  words : Option Nat
  lines : Option Nat
  skipEmpty : Bool

/-- The commands for words. -/
def Calls.all (c : Calls) (given : List CallWord) : List (List String) :=
  let texts (group : List CallWord) : List String := group.map fun (word, _) => String.ofList word
  match c.replaced, c.words, c.lines with
  | some mark, _, _ => (texts given).map fun text =>
    c.command.map fun word => word.replace mark text
  | none, some n, _ =>
    whenEmpty given ((piecesOf n (given.length + 1) given).map fun group =>
      c.command ++ texts group)
  | none, none, some n =>
    whenEmpty given ((groupByLines n 0 given).map fun group => c.command ++ texts group)
  | none, none, none => whenEmpty given [c.command ++ texts given]
where
  /-- The command without words where there are none. -/
  whenEmpty (given : List CallWord) (calls : List (List String)) : List (List String) :=
    if ¬ given.isEmpty then calls else if c.skipEmpty then [] else [c.command]

/-- **No word is lost**: those behind the command, of one call after the other, are the words that
are given. -/
theorem flatMap_all {c : Calls} {given : List CallWord} (hreplaced : c.replaced = none)
    (hwords : c.words ≠ some 0) :
    (c.all given).flatMap (·.drop c.command.length) =
      given.map fun (word, _) => String.ofList word := by
  have hcalls (groups : List (List CallWord)) (hgroups : groups.flatten = given) :
      (groups.map fun group => c.command ++ group.map fun (word, _) => String.ofList word).flatMap
        (·.drop c.command.length) = given.map fun (word, _) => String.ofList word := by
    subst hgroups
    induction groups with
    | nil => rfl
    | cons group groups ih =>
      rw [List.map_cons, List.flatMap_cons, ih, List.drop_left' rfl, List.flatten_cons,
        List.map_append]
  have hempty (calls : List (List String)) (h : given ≠ [] → calls.flatMap
      (·.drop c.command.length) = given.map fun (word, _) => String.ofList word) :
      (Calls.all.whenEmpty c given calls).flatMap (·.drop c.command.length) =
        given.map fun (word, _) => String.ofList word := by
    rw [Calls.all.whenEmpty]
    split
    next hfull => exact h (by simpa using hfull)
    next hnone =>
      obtain rfl : given = [] := by simpa using hnone
      split <;> simp
  rw [Calls.all, hreplaced]
  cases hmost : c.words with
  | some n =>
    have hn : n ≠ 0 := fun hzero => hwords (by rw [hmost, hzero])
    exact hempty _ fun _ => hcalls _ (flatten_piecesOf hn (Nat.lt_succ_self _))
  | none =>
    cases c.lines with
    | some n => exact hempty _ fun _ => hcalls _ (flatten_groupByLines n 0 given)
    | none => exact hempty _ fun _ => by simp

/-- What is run for an input: commands, whether they are told, and what is complained at the end;
and what of the input is left to the commands. -/
structure CallPlan where
  calls : List (List String)
  told : Bool
  complaint : List Char
  rest : List Char

/-- The options of `xargs`. -/
def callOptions : OptionTable where
  flags := "0rtxp"
  valued := "adEILnPs"
  long := [("null", '0'), ("arg-file", 'a'), ("delimiter", 'd'), ("eof", 'e'), ("replace", 'i'),
    ("max-lines", 'l'), ("max-args", 'n'), ("interactive", 'p'), ("no-run-if-empty", 'r'),
    ("max-chars", 's'), ("verbose", 't'), ("exit", 'x'), ("max-procs", 'P')]

/-- What is run for the words of an input: so many at a time with `-n`, so many lines with `-L`, in
the place of a mark with `-I`; they are taken apart at another character with `-0` or `-d`.  Of
`-n`, `-L` and `-I` the last one holds. -/
def calls (task : Task) : Except String CallPlan := do
  let (options, command) ← frontOptions "xargs" callOptions ['e', 'i', 'l'] task.words
  let help := "Try 'xargs --help' for more information."
  let count (letter : Char) (text : String) : Except String Nat :=
    match natural? text with
    | some 0 => .error s!"xargs: value 0 for -{letter} option should be >= 1\n{help}"
    | some n => .ok n
    | none => .error s!"xargs: invalid number \"{text}\" for -{letter} option\n{help}"
  let plain : Calls := ⟨if command.isEmpty then ["echo"] else command, none, none, none,
    hasOption options 'r'⟩
  let plan ← options.foldlM (fun plan (letter, value) =>
    match letter with
    | 'I' => .ok { plan with replaced := some value, words := none, lines := none }
    | 'i' =>
      let mark := if value = "" then "\x7b\x7d" else value
      .ok { plan with replaced := some mark, words := none, lines := none }
    | 'n' => do
      let n ← count 'n' value
      if n = 1 ∧ plan.replaced.isSome then .ok plan
      else .ok { plan with replaced := none, words := some n, lines := none }
    | 'L' => do
      .ok { plan with replaced := none, words := none, lines := some (← count 'L' value) }
    | 'l' => do
      let n ← if value = "" then .ok 1 else count 'l' value
      .ok { plan with replaced := none, words := none, lines := some n }
    | _ => .ok plan) plain
  let separator ← match lastOption? options ['0', 'd'] with
    | none => .ok none
    | some ('d', text) =>
      match unescape true (text.length + 1) text.toList with
      | ([c], _) => .ok (some c)
      | _ => .error (s!"xargs: Invalid input delimiter specification {text}: the delimiter must " ++
        "be either a single character or an escape sequence starting with \\.")
    | some _ => .ok (some '\x00')
  let path := optionValue? options 'a'
  let input ← match path with
    | none => .ok task.input
    | some path =>
      match task.contents path with
      | .ok text => .ok text
      | .error fault => .error s!"xargs: Cannot open input file '{path}': {fault.message}"
  let (given, fault) : List CallWord × Option Char := match separator with
    | some c =>
      let records := recordsOf c input
      (records.map fun record => (record.takeWhile (· ≠ c), record.getLast? == some c), none)
    | none => callWords plan.replaced.isSome .between '\n' false [] input
  let given := match separator, lastOption? options ['E', 'e'] with
    | none, some (_, finish) =>
      if finish = "" then given else given.takeWhile (·.1 ≠ finish.toList)
    | _, _ => given
  let complaint := fault.map fun mark =>
    let kind := if mark = '"' then "double" else "single"
    s!"xargs: unmatched {kind} quote; by default quotes are special to xargs unless you use " ++
      "the -0 option\n"
  return ⟨if complaint.isSome ∧ given.isEmpty then [] else plan.all given,
    hasOption options 't', (complaint.getD "").toList, if path.isSome then task.input else []⟩

end Shell

end TreeOutline
