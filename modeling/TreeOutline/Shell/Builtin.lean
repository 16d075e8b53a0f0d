import TreeOutline.Shell.Numeral
import TreeOutline.Shell.Script.Token
import TreeOutline.Shell.State
import TreeOutline.Text.Case

namespace TreeOutline

/-!
# Commands of the shell itself

These commands read or change what the shell knows.  Those whose faults end the script are the ones
that may not name a function.

* `Shell.exit`, `Shell.leaveFunction`, `Shell.leaveLoop` — how a script or a part of it ends.
* `Shell.kill`, `Shell.trap` — sends a signal, which ends the script itself when it is sent to its
  own number, unless there is something to do at it.
* `Shell.readLine` — reads a line of the input into variables; `lineLetters_raw` says what a raw
  line is, and `map_fst_splitAmong` that each variable gets a field.
* `Shell.builtin?` — the command with a name.
-/

namespace Shell

/-! ### Ends -/

/-- The status that the first word asks for; without a word that of the last command. -/
def askedStatus (words : List String) : Run Nat := do
  match words with
  | [] => return (← get).status
  | word :: _ =>
    match natural? word with
    | some n => return n % 256
    | none => fail s!"Illegal number: {word}"

/-- Ends the script. -/
def exit (words : List String) : Run Unit := do
  setStatus (← askedStatus words)
  stop .exit

/-- Goes back from a function. -/
def leaveFunction (words : List String) : Run Unit := do
  setStatus (← askedStatus words)
  stop .back

/-- Leaves loops, or goes on with the next round of one. -/
def leaveLoop (name : String) (words : List String) : Run Unit := do
  let count ← match words with
    | [] => pure 1
    | word :: _ =>
      match natural? word with
      | some 0 | none => fail s!"Illegal number: {word}"
      | some n => pure n
  setStatus 0
  let count := min count (← get).loops
  if 0 < count then stop (if name = "break" then .leave count else .next count)

/-! ### Signals -/

/-- Signals: their names, numbers, and what is said about a script that one has ended. -/
def signals : List (String × Nat × String) :=
  [("HUP", 1, "Hangup"), ("INT", 2, ""), ("QUIT", 3, "Quit"), ("ILL", 4, "Illegal instruction"),
    ("TRAP", 5, "Trace/breakpoint trap"), ("ABRT", 6, "Aborted"), ("BUS", 7, "Bus error"),
    ("FPE", 8, "Floating point exception"), ("KILL", 9, "Killed"),
    ("USR1", 10, "User defined signal 1"), ("SEGV", 11, "Segmentation fault"),
    ("USR2", 12, "User defined signal 2"), ("PIPE", 13, ""), ("ALRM", 14, "Alarm clock"),
    ("TERM", 15, "Terminated"), ("16", 16, "Stack fault"),
    ("XCPU", 24, "CPU time limit exceeded"), ("XFSZ", 25, "File size limit exceeded"),
    ("VTALRM", 26, "Virtual timer expired"), ("PROF", 27, "Profiling timer expired"),
    ("IO", 29, "I/O possible"), ("PWR", 30, "Power failure"), ("SYS", 31, "Bad system call")]

/-- Signals that end nothing. -/
def mildSignals : List (String × Nat) :=
  [("CHLD", 17), ("CONT", 18), ("STOP", 19), ("TSTP", 20), ("TTIN", 21), ("TTOU", 22), ("URG", 23),
    ("WINCH", 28)]

/-- The largest number of a signal. -/
def lastSignal : Nat := 64

/-- The name of a signal: one of its own, or its place among the free ones, which are counted from
both ends. -/
def signalName (number : Nat) : String :=
  match signals.find? (·.2.1 = number), mildSignals.find? (·.2 = number) with
  | some (name, _), _ | none, some (name, _) => name
  | none, none =>
    if number < 34 then toString number
    else if number = 34 then "RTMIN"
    else if number < 50 then s!"RTMIN+{number - 34}"
    else if number < lastSignal then s!"RTMAX-{lastSignal - number}"
    else "RTMAX"

/-- The number of a signal by its number or its name; that of the end is zero. -/
def signalNumber? (text : String) : Option Nat :=
  match natural? text with
  | some number => if number ≤ lastSignal then some number else none
  | none =>
    if asciiUpper text = "EXIT" then some 0
    else (List.range (lastSignal + 1)).find? fun number =>
      0 < number && signalName number = asciiUpper text

/-- The number of a signal is none that there is not. -/
theorem le_of_signalNumber? {text : String} {number : Nat} (h : signalNumber? text = some number) :
    number ≤ lastSignal := by
  rw [signalNumber?] at h
  split at h
  · obtain ⟨hle, heq⟩ := Option.ite_none_right_eq_some.1 h
    exact Option.some.inj heq ▸ hle
  · split at h
    · obtain rfl := Option.some.inj h
      exact Nat.zero_le _
    · exact Nat.le_of_lt_succ (List.mem_range.1 (List.mem_of_find?_eq_some h))

/-- What is said about a script that a signal has ended. -/
def signalText (number : Nat) : String :=
  ((signals.find? (·.2.1 = number)).map (·.2.2)).getD ""

/-- What a signal does to the shell with the number of this one: it ends it, unless the shell has
something to do at it or is deaf to it.  Nothing keeps off the ninth one. -/
def receive (number : Nat) : Run Unit := do
  let s ← get
  match (s.outerTraps.getD s.traps).lookup number with
  | some text =>
    if number = 9 then stop (.killed s.process number)
    else if text ≠ "" then set { s with pending := s.pending ++ [number] }
  | none =>
    if s.ignored.contains number ∨ mildSignals.any (·.2 = number) ∨ number = 0 then return
    else stop (.killed s.process number)

/-- Sends a signal to processes; only the shell's own number is one. -/
def sendSignal (number : Nat) (targets : List String) : Run Unit := do
  setStatus 0
  if targets.isEmpty then
    refuse ("Usage: kill [-s sigspec | -signum | -sigspec] [pid | job]... or\n" ++
      "kill -l [exitstatus]")
  targets.forM fun target => do
    let s ← get
    match decimal? target with
    | none =>
      refuse (if target.startsWith "%" then s!"No such job: {target}"
        else s!"Illegal number: {target}")
    | some process =>
      if process ≠ s.process then
        complain "No such process\n"
        setStatus 1
      else receive number

/-- Names the signal with a number, or that has ended a script with a status; or all of them. -/
def nameSignals (words : List String) : Run Unit := do
  setStatus 0
  match words with
  | [] =>
    print 1 (joinWords ("0" :: (List.range lastSignal).map fun n => signalName (n + 1)))
  | word :: _ =>
    match natural? word with
    | none => refuse s!"Illegal number: {word}"
    | some status =>
      let number := if 128 < status then status - 128 else status
      if 0 < number ∧ number ≤ lastSignal then print 1 (signalName number ++ "\n").toList
      else refuse s!"invalid signal number or exit status: {word}"
where
  /-- Words, each on a line. -/
  joinWords (words : List String) : List Char := words.flatMap fun word => (word ++ "\n").toList

/-- Sends a signal that is named in front of the targets, or the usual one. -/
def kill (words : List String) : Run Unit :=
  match words with
  | "-s" :: name :: targets =>
    match signalNumber? name with
    | some number => sendSignal number targets
    | none => refuse s!"invalid signal number or name: {name}"
  | "-l" :: "--" :: words | "-l" :: words => nameSignals words
  | "--" :: targets => sendSignal 15 targets
  | word :: targets =>
    match word.toList with
    | '-' :: letter :: more =>
      match signalNumber? (String.ofList (letter :: more)) with
      | some number => sendSignal number targets
      | none => refuse s!"Illegal option -{letter}"
    | _ => sendSignal 15 words
  | [] => sendSignal 15 []

/-! ### Reading lines -/

/-- The characters of the next line and whether it is complete, and the rest of the input.  Unless
it is `raw`, a backslash masks the character behind it, and joins lines. -/
def lineLetters (raw : Bool) : List Char → List (Char × Bool) × Bool × List Char
  | [] => ([], false, [])
  | '\\' :: c :: rest =>
    if raw then
      if c = '\n' then ([('\\', false)], true, rest)
      else
        let (letters, complete, rest) := lineLetters raw (c :: rest)
        (('\\', false) :: letters, complete, rest)
    else
      let (letters, complete, rest) := lineLetters raw rest
      (if c = '\n' then letters else (c, true) :: letters, complete, rest)
  | c :: rest =>
    if c = '\n' then ([], true, rest)
    else
      let (letters, complete, rest) := lineLetters raw rest
      ((c, false) :: letters, complete, rest)

/-- **A raw line** is what stands in front of the first end of line, as it is. -/
theorem lineLetters_raw (chars : List Char) :
    lineLetters true chars = ((chars.takeWhile (· ≠ '\n')).map (·, false), chars.contains '\n',
      (chars.dropWhile (· ≠ '\n')).drop 1) := by
  fun_induction lineLetters true chars with
  | case1 => rfl
  | case2 c rest => simp
  | case3 c rest hc letters complete rest' hread ih => simp_all
  | case4 c rest hraw => exact absurd rfl hraw
  | case5 rest hmask => simp
  | case6 c rest hmask hc letters complete rest' hread ih => simp_all [Ne.symm hc]

/-- Splits letters into fields for some names; the last one takes all that is left. -/
def splitAmong (separators : List Char) : (names : List String) → List (Char × Bool) →
    List (String × String)
  | [], _ => []
  | name :: names, letters =>
    let isBlank (l : Char × Bool) : Bool :=
      !l.2 && l.1 ∈ [' ', '\t', '\n'] && separators.contains l.1
    let isSeparator (l : Char × Bool) : Bool := !l.2 && separators.contains l.1
    let letters := letters.dropWhile isBlank
    let text (letters : List (Char × Bool)) : String := String.ofList (letters.map (·.1))
    match names with
    | [] => [(name, text (letters.reverse.dropWhile isBlank).reverse)]
    | names =>
      let field := letters.takeWhile fun l => !isSeparator l
      let rest := (letters.drop field.length).dropWhile isBlank
      let rest := match rest with
        | l :: rest => if isSeparator l then rest else l :: rest
        | [] => []
      (name, text field) :: splitAmong separators names rest

/-- There is a field for each name, in order. -/
theorem map_fst_splitAmong (separators : List Char) (names : List String)
    (letters : List (Char × Bool)) :
    (splitAmong separators names letters).map (·.1) = names := by
  induction names generalizing letters with
  | nil => rfl
  | cons name names ih =>
    cases names with
    | nil => rfl
    | cons next names =>
      rw [splitAmong, List.map_cons, ih]
      exact List.cons_ne_nil next names

/-- Reads a line of the input into variables: fields one by one, and the rest into the last one. -/
def readLine (words : List String) : Run Unit := do
  let raw := words.head? == some "-r"
  let names := if raw then words.drop 1 else words
  let names := match names with
    | "-p" :: _ :: names => names
    | names => names
  match names.find? fun name => !isName name.toList, names with
  | some name, _ => refuse s!"{name}: bad variable name"
  | none, [] => refuse "arg count"
  | none, names =>
    let s ← get
    let (letters, complete, input) := lineLetters raw s.input
    set { s with input }
    (splitAmong s.separators names letters).forM fun (name, text) => assign name text
    setStatus (if complete then 0 else 1)

/-! ### Variables and arguments -/

/-- Sets variables that are named with a value, and marks them all. -/
def mark (note : String → State → State) (words : List String) : Run Unit := do
  setStatus 0
  (words.filter (· ≠ "-p")).forM fun word => do
    let (name, value) := match settingName? word.toList with
      | some (name, value) => (name, some (String.ofList value))
      | none => (word, none)
    if isName name.toList then
      if let some value := value then assign name value
      modify (note name)
    else fail s!"{name}: bad variable name"

/-- Makes variables known to other programs. -/
def exportNames : List String → Run Unit :=
  mark fun name s => { s with exported := name :: s.exported }

/-- Makes variables constant. -/
def fixNames : List String → Run Unit :=
  mark fun name s => { s with constants := name :: s.constants }

/-- Makes variables known only to the function that is run. -/
def makeLocal (words : List String) : Run Unit := do
  setStatus 0
  words.forM fun word => do
    let s ← get
    let (name, value) := match settingName? word.toList with
      | some (name, value) => (name, some (String.ofList value))
      | none => (word, none)
    match s.locals with
    | none => fail "not in a function"
    | some locals =>
      let old := (name, s.bindings.lookup name)
      set { s with locals := some (if locals.any (·.1 = name) then locals else old :: locals) }
      if let some value := value then assign name value

/-- Removes variables, or functions with `-f`. -/
def unset (words : List String) : Run Unit := do
  setStatus 0
  match words with
  | "-f" :: names =>
    modify fun s => { s with functions := s.functions.filter fun (name, _) => name ∉ names }
  | words =>
    (words.filter (· ≠ "-v")).forM fun name => do
      if ¬ isName name.toList then fail s!"{name}: bad variable name"
      else if (← get).constants.contains name then fail s!"{name}: is read only"
      else modify (·.removeVariable name)

/-- Drops arguments. -/
def shift (words : List String) : Run Unit := do
  let count ← match words with
    | [] => pure 1
    | word :: _ =>
      match natural? word with
      | some n => pure n
      | none => fail s!"Illegal number: {word}"
  let s ← get
  if s.arguments.length < count then fail "can't shift that many"
  else set { s with arguments := s.arguments.drop count, status := 0 }

/-- Switches an option by its letter. -/
def switchOption (on : Bool) (letter : Char) : Run Unit := do
  let s ← get
  match letter with
  | 'e' => set { s with options := { s.options with endOnFailure := on } }
  | 'u' => set { s with options := { s.options with refuseUnset := on } }
  | 'x' => set { s with options := { s.options with printCommands := on } }
  | 'f' => set { s with options := { s.options with plainPaths := on } }
  | letter =>
    if letter ∈ ['a', 'b', 'C', 'h', 'i', 'I', 'm', 'n', 's', 'v', 'V', 'E'] then return
    else fail s!"Illegal option -{letter}"

/-- Options by their long names. -/
def optionLetters : List (String × Char) :=
  [("errexit", 'e'), ("nounset", 'u'), ("xtrace", 'x'), ("noglob", 'f'), ("noclobber", 'C'),
    ("allexport", 'a'), ("notify", 'b'), ("verbose", 'v'), ("monitor", 'm'), ("ignoreeof", 'I')]

/-- Switches options, and replaces the arguments by the words behind them if there are any. -/
def setOptions : List String → Run Unit
  | [] => return
  | word :: rest => do
    setStatus 0
    let arguments (words : List String) : Run Unit := modify fun s => { s with arguments := words }
    match word.toList with
    | ['-', '-'] => arguments rest
    | sign :: letter :: letters =>
      if sign ≠ '-' ∧ sign ≠ '+' then arguments (word :: rest)
      else if letter = 'o' ∧ letters = [] then
        match rest with
        | [] => return
        | name :: rest =>
          match optionLetters.lookup name with
          | none => fail s!"Illegal option -o {name}"
          | some letter =>
            switchOption (sign == '-') letter
            setOptions rest
      else
        (letter :: letters).forM fun letter => switchOption (sign == '-') letter
        setOptions rest
    | _ => arguments (word :: rest)

/-- Reads the next option of the arguments into a variable, its value into `OPTARG` and the number
of the next argument into `OPTIND`.  The letters that are known have a colon behind them if they
take a value; a colon in front of all of them keeps faults silent. -/
def nextOption (words : List String) : Run Unit := do
  match words with
  | known :: name :: given =>
    let s ← get
    let arguments := if given.isEmpty then s.arguments else given
    let number := ((s.bindings.lookup "OPTIND").bind natural?).getD 1
    let silent := known.startsWith ":"
    let letters := if silent then known.toList.drop 1 else known.toList
    -- what is left of a word of several letters, unless the count was set back
    let current := match s.optionPlace with
      | some place =>
        if number ≤ 1 then [] else ((arguments[number - 2]?).getD "").toList.drop place
      | none => []
    let (options, number) : Option (List Char) × Nat :=
      if ¬ current.isEmpty then (some current, number)
      else
        match (arguments[number - 1]?).map String.toList with
        | some ['-', '-'] => (none, number + 1)
        | some ('-' :: c :: more) => (some (c :: more), number + 1)
        | _ => (none, number)
    let leave (letter : Char) (number : Nat) (place : Option Nat) (status : Nat) : Run Unit := do
      assign "OPTIND" (toString number)
      assign name (String.singleton letter)
      modify fun s => { s with optionPlace := place, status }
    match options with
    | none | some [] => leave '?' number none 1
    | some (c :: more) =>
      let word := (arguments[number - 2]?).getD ""
      -- the place in the word is kept apart from the variable, which only counts words
      let place := if more.isEmpty then none else some (word.length - more.length)
      let rest := letters.dropWhile (· ≠ c)
      if c = ':' ∨ rest.isEmpty then
        -- with a colon in front of the letters the script does the complaining
        if silent then assign "OPTARG" (String.singleton c)
        else
          print 2 s!"Illegal option -{c}\n".toList
          modify (·.removeVariable "OPTARG")
        leave '?' number place 0
      else if rest[1]? ≠ some ':' then
        assign "OPTARG" ""
        leave c number place 0
      else if ¬ more.isEmpty then
        assign "OPTARG" (String.ofList more)
        leave c number none 0
      else
        match arguments[number - 1]? with
        | some value =>
          assign "OPTARG" value
          leave c (number + 1) none 0
        | none =>
          if silent then
            assign "OPTARG" (String.singleton c)
            leave ':' number none 0
          else
            print 2 s!"No arg for -{c} option\n".toList
            modify (·.removeVariable "OPTARG")
            leave '?' number none 0
  | _ => refuse "Usage: getopts optstring var [arg...]"

/-! ### Other commands -/

/-- Goes to a directory: to one's own without a path, and to the one before with a dash, which also
prints it. -/
def changeDirectory (words : List String) : Run Unit := do
  let s ← get
  let words := words.dropWhile fun word => word ∈ ["-L", "-P", "--"]
  let known (name : String) : String := (s.bindings.lookup name).getD ""
  let path := match words with
    | [] => known "HOME"
    | ["-"] => known "OLDPWD"
    | path :: _ => path
  if path ≠ "" ∧ ¬ s.store.isDirectory path then refuse s!"can't cd to {path}"
  else
    let place := s.store.full path
    set { s with status := 0, store := { s.store with here := place } }
    assign "OLDPWD" (known "PWD")
    assign "PWD" place
    if words = ["-"] then print 1 (place ++ "\n").toList

/-- A text in quotes, as the shell would read it again. -/
def shellQuoted (text : String) : String := "'" ++ text.replace "'" "'\"'\"'" ++ "'"

/-- Notes what is to be run at signals and at the end, or forgets it; without words it tells what
has been noted.  A number in the place of the text forgets as well. -/
def trap (words : List String) : Run Unit := do
  setStatus 0
  let words := if words.head? = some "--" then words.drop 1 else words
  match words with
  | [] =>
    (← get).traps.mergeSort (fun a b => a.1 ≤ b.1) |>.forM fun (number, text) =>
      let name := if number = 0 then "EXIT" else signalName number
      print 1 s!"trap -- {shellQuoted text} {name}\n".toList
  | action :: names =>
    let (text, names) : Option String × List String :=
      if names.isEmpty ∨ (natural? action).isSome then (none, words)
      else (if action = "-" then none else some action, names)
    if let '-' :: letter :: _ := (if names.length = words.length then action else "").toList then
      refuse s!"Illegal option -{letter}"
    else note text names
where
  /-- Notes a text for signals up to the first one that there is not. -/
  note (text : Option String) : List String → Run Unit
    | [] => return
    | name :: names =>
      match signalNumber? name with
      | none => do
        print 2 s!"trap: {name}: bad trap\n".toList
        setStatus 1
      | some number => do
        modify fun s => { s with
          traps := (text.map fun text => (number, text)).toList ++
            s.traps.filter (·.1 ≠ number) }
        note text names

/-- The command of the shell itself with a name. -/
def builtin? (name : String) : Option (List String → Run Unit) :=
  match name with
  | "exit" => some exit
  | "return" => some leaveFunction
  | "break" | "continue" => some (leaveLoop name)
  | "kill" => some kill
  | "read" => some readLine
  | "export" => some exportNames
  | "readonly" => some fixNames
  | "local" => some makeLocal
  | "unset" => some unset
  | "shift" => some shift
  | "set" => some setOptions
  | "getopts" => some nextOption
  | "cd" => some changeDirectory
  | "pwd" => some fun _ => do
    print 1 ((← get).store.here ++ "\n").toList
    setStatus 0
  | "trap" => some trap
  | "umask" => some fun words => do
    if words.isEmpty then print 1 "0022\n".toList
    setStatus 0
  | ":" | "true" | "wait" | "hash" | "jobs" | "alias" | "times" | "ulimit" =>
    some fun _ => setStatus 0
  | "false" => some fun _ => setStatus 1
  | _ => none

end Shell

end TreeOutline
