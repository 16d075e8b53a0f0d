import TreeOutline.Shell.Awk.Run
import TreeOutline.Shell.Builtin
import TreeOutline.Shell.Filing
import TreeOutline.Shell.Script.Reader
import TreeOutline.Shell.Tool.Calling
import TreeOutline.Shell.Tool.Comparing
import TreeOutline.Shell.Tool.Cutting
import TreeOutline.Shell.Tool.Difference
import TreeOutline.Shell.Tool.Digest
import TreeOutline.Shell.Tool.Dump
import TreeOutline.Shell.Tool.Editing
import TreeOutline.Shell.Tool.Encoding
import TreeOutline.Shell.Tool.Excerpt
import TreeOutline.Shell.Tool.Lines
import TreeOutline.Shell.Tool.LongDigest
import TreeOutline.Shell.Tool.Merging
import TreeOutline.Shell.Tool.Numbering
import TreeOutline.Shell.Tool.Paths
import TreeOutline.Shell.Tool.Printing
import TreeOutline.Shell.Tool.Search
import TreeOutline.Shell.Tool.Sorting
import TreeOutline.Shell.Tool.Tabs
import TreeOutline.Shell.Tool.Testing
import TreeOutline.Shell.Tool.Translation
import TreeOutline.Shell.Words

namespace TreeOutline

/-!
# Running scripts

A script is run as a function: it is given its input and the files there are, and what comes of it
is what it prints on either stream and how it ends.

* `Shell.tool?` — the tool with a name.
* `Shell.redirected`, `Shell.oneRound`, `Shell.called` — actions with redirections, rounds of loops
  and calls of functions, and what they give back (`streams_redirected`, `called_keeps`).
* `Shell.runStatements` — runs statements, the number of steps being limited.
* `Shell.run` — runs a script from its text.
-/

namespace Shell

/-! ### Streams -/

/-- The file that a stream leads to by a path. -/
def targetOf (s : State) (path : String) : Target :=
  match path with
  | "/dev/null" => .nowhere
  | "/dev/stdout" => (s.streams.lookup 1).getD .nowhere
  | "/dev/stderr" => (s.streams.lookup 2).getD .nowhere
  | path => .file path

/-- Lets a stream lead to a target. -/
def State.lead (s : State) (stream : Nat) (target : Target) : State :=
  { s with streams := (stream, target) :: s.streams.filter (·.1 ≠ stream) }

/-! ### Tools -/

/-- The tool with a name that also writes files. -/
def fileWriter? (name : String) : Option (Task → FilesReport) :=
  match name with
  | "sort" => some sort
  | "uniq" => some uniq
  | "sed" => some sed
  | _ => none

/-- The tool of the shell itself with a name. -/
def shellTool? (name : String) (complain : String → List Char) : Option (Task → Report) :=
  match name with
  | "echo" => some echo
  | "printf" => some (printf ⟨false, complain⟩)
  | "test" => some (test "test" complain)
  | "[" => some (test "[" complain)
  | _ => none

/-- The tool with a name. -/
def tool? (name : String) (complain : String → List Char) : Option (Task → Report) :=
  match name with
  | "cat" => some cat
  | "head" => some head
  | "tail" => some tail
  | "tac" => some tac
  | "rev" => some rev
  | "wc" => some wc
  | "nl" => some nl
  | "paste" => some paste
  | "tr" => some tr
  | "cut" => some cut
  | "fold" => some fold
  | "expand" => some expand
  | "unexpand" => some unexpand
  | "base64" => some (encodingTool "base64" .sixBits)
  | "base32" => some (encodingTool "base32" .fiveBits)
  | "od" => some od
  | "basename" => some basename
  | "dirname" => some dirname
  | "echo" => some echoProgram
  | "printf" => some (printf ⟨true, complain⟩)
  | "seq" => some seq
  | "factor" => some factor
  | "yes" => some yes
  | "test" => some (test "test" complain)
  | "[" => some (test "[" complain)
  | "true" => some fun task => .quiet task 0
  | "false" => some fun task => .quiet task 1
  | "grep" => some grep
  | "egrep" => some (grepWith "-E")
  | "fgrep" => some (grepWith "-F")
  | "cmp" => some cmp
  | "diff" => some diff
  | "comm" => some comm
  | "join" => some join
  | "tsort" => some tsort
  | "md5sum" => some (digestTool "md5sum" md5)
  | "sha1sum" => some (digestTool "sha1sum" sha1)
  | "sha224sum" => some (digestTool "sha224sum" sha224)
  | "sha256sum" => some (digestTool "sha256sum" sha256)
  | "sha384sum" => some (digestTool "sha384sum" sha384)
  | "sha512sum" => some (digestTool "sha512sum" sha512)
  | "b2sum" => some (digestTool "b2sum" blake2b)
  | "cksum" => some cksum
  | "sum" => some sum
  | "expr" => some expr
  | "dd" => some dd
  | "sleep" => some sleep
  | "sync" => some fun task => .quiet task 0
  | name => (fileWriter? name).map fun tool task => (tool task).toReport

/-- Prints and leaves what comes of a tool. -/
def finishTool (report : Report) : Run Unit := do
  print 1 report.printed
  print 2 report.complaint
  modify fun s => { s with status := report.status, input := report.rest }

/-- Runs a tool. -/
def runTool (tool : Task → Report) (words : List String) : Run Unit := do
  let s ← get
  finishTool (tool ⟨words, s.input, s.inputIsFile, s.store⟩)

/-- Runs a tool that also writes files. -/
def runFileWriter (tool : Task → FilesReport) (words : List String) : Run Unit := do
  let s ← get
  let report := tool ⟨words, s.input, s.inputIsFile, s.store⟩
  report.written.forM fun (path, text) =>
    match targetOf s path, s.store.hindrance? path with
    | .file path, none => modify (·.writeFile path text)
    | .nowhere, _ | _, some _ => return
    | .channel _, _ => print (if path = "/dev/stderr" then 2 else 1) text
  finishTool report.toReport

/-- The name of a tool that a path in the usual places leads to. -/
def toolName (name : String) : String :=
  if name.startsWith "/usr/bin/" then (name.drop 9).toString
  else if name.startsWith "/bin/" then (name.drop 5).toString
  else name

/-- The kinds of commands that the shell runs itself, besides those that only change what it
knows. -/
def runnerNames : List String := ["eval", "exec", ".", "command", "type"]

/-- Whether a word names a tool that is a program of its own. -/
def isProgram (name : String) : Bool :=
  name ∈ ["env", "printenv", "xargs", "which", "sh", "dash", "bash", "awk", "mawk", "nawk", "kill",
    "pwd"] ||
  (launch? name []).isSome || (filing? name).isSome || (tool? name fun _ => []).isSome

/-- What is said of a command that is not there. -/
def commandMissing (name : String) : Run Unit := do
  let store := (← get).store
  if name.toList.contains '/' ∧ (store.isDirectory name ∨ store.isFile name) then
    complain s!"{name}: Permission denied"
    setStatus 126
  else
    complain (if name = "" then ": Permission denied" else s!"{name}: not found")
    setStatus 127

/-- The words that run a file as a program: those of its first line, if they name another program,
or of a shell. -/
def programWords? (store : Store) (path : String) : Option (List String) :=
  if path.toList.contains '/' ∧ store.programs.contains (store.full path) then
    match ((store.contents? path).getD []).takeWhile (· ≠ '\n') with
    | '#' :: '!' :: line =>
      let words := ((String.ofList line).splitOn " ").filter (· ≠ "")
      some ((if words.isEmpty then ["sh"] else words) ++ [path])
    | _ => some ["sh", path]
  else none

/-! ### Redirections -/

/-- Opens one redirection; `false` with a complaint when that cannot be done. -/
def openOne (output : List Statement → Run (List Char)) (fuel : Nat) :
    Redirection → Run Bool
  | .input stream word => do
    let path ← expandText output fuel word
    let s ← get
    match s.opened? path with
    | none =>
      refuse s!"cannot open {path}: No such file"
      return false
    | some text =>
      if stream = 0 then set { s with input := text, inputIsFile := true }
      return true
  | .text word => do
    let text ← expandText output fuel word
    modify fun s => { s with input := text.toList, inputIsFile := false }
    return true
  | .output stream append word => do
    let path ← expandText output fuel word
    match (← get).store.hindrance? path with
    | some fault =>
      let reason := if fault = .directory then fault.message else "Directory nonexistent"
      refuse s!"cannot create {path}: {reason}"
      return false
    | none =>
      let s ← get
      let target := targetOf s path
      -- the file is there, and empty, even if nothing is written to it later
      let s := match target with
        | .file path => if append then s.appendFile path [] else s.writeFile path []
        | _ => s
      set (s.lead stream target)
      return true
  | .duplicate stream word => do
    let source ← expandText output fuel word
    let s ← get
    match natural? source with
    | some n =>
      -- the input is not among the streams, so it is looked for by its number
      if n = 0 ∧ stream = 0 then return true
      else
        match s.streams.lookup n with
        | some target =>
          set (s.lead stream target)
          return true
        | none =>
          if n = 0 then return true
          else
            refuse s!"{n}: Bad file descriptor"
            return false
    | none =>
      if source = "-" then
        if stream = 0 then set { s with input := [] }
        else set { s with streams := s.streams.filter (·.1 ≠ stream) }
        return true
      else fail "Syntax error: Bad fd number"

/-- Opens redirections one after the other. -/
def openAll (output : List Statement → Run (List Char)) (fuel : Nat) :
    List Redirection → Run Bool
  | [] => return true
  | redirection :: rest => do
    if ← openOne output fuel redirection then openAll output fuel rest else return false

/-- Runs an action with redirections, which are undone behind it.  Where one of them cannot be made,
the action is left out, and if it is `special` the script ends. -/
def redirected (output : List Statement → Run (List Char)) (fuel : Nat) (special : Bool)
    (redirections : List Redirection) (action : Run Unit) : Run Unit := fun s =>
  let (result, after) := (do
    if ← openAll output fuel redirections then action
    else if special then stop .exit : Run Unit) s
  let ownInput := redirections.any fun
    | .input 0 _ | .text _ => true
    | _ => false
  let after := { after with streams := s.streams }
  (result, if ownInput then { after with input := s.input, inputIsFile := s.inputIsFile }
    else after)

/-- **Redirections are undone**: behind an action the streams lead where they led before. -/
theorem streams_redirected (output : List Statement → Run (List Char)) (fuel : Nat)
    (special : Bool) (redirections : List Redirection) (action : Run Unit) (s : State) :
    (redirected output fuel special redirections action s).2.streams = s.streams := by
  rw [redirected]
  extract_lets
  split
  dsimp only
  split <;> rfl

/-! ### Commands -/

/-- Ends the script if a command has failed and that is asked for. -/
def endOnFailure : Run Unit := do
  let s ← get
  if s.options.endOnFailure ∧ ¬ s.tested ∧ s.status ≠ 0 then stop .exit

/-- A shell of its own within a script, which knows only what is exported. -/
def State.nested (s : State) (name : String) (arguments : List String) : State :=
  { State.initial s.input s.store with
    bindings := ("IFS", " \t\n") :: s.bindings.filter fun (name, _) =>
      s.exported.contains name && name ≠ "IFS"
    exported := s.exported
    name
    arguments
    process := s.process + 1
    ignored := s.ignored ++ (s.traps.filter fun (_, text) => text = "").map (·.1)
    inputIsFile := s.inputIsFile
    streams := s.streams
    channels := s.channels
    printed := s.printed }

/-- Runs a program and tells the signal that has ended it, if one has. -/
def signalOf (program : Run Unit) : Run (Option Nat) := fun s =>
  match program s with
  | (.error (.killed process signal), after) =>
    if process = s.process then (.error (.killed process signal), after)
    else (.ok (some signal), after)
  | (result, after) => (result.map fun _ => none, after)

/-- Runs a program; when a signal has ended it, that is said, and its status is made of it. -/
def waitedFor (program : Run Unit) : Run Unit := do
  match ← signalOf program with
  | none => return
  | some signal =>
    let text := signalText signal
    if text ≠ "" then print 2 (text ++ "\n").toList
    setStatus (128 + signal)

/-- Runs the branch of a loop once.  `true` when the loop goes on. -/
def oneRound (body : Run Unit) : Run Bool := fun s =>
  match body { s with loops := s.loops + 1 } with
  | (.ok _, after) => (.ok true, { after with loops := s.loops })
  | (.error (.leave n), after) =>
    (if n ≤ 1 then .ok false else .error (.leave (n - 1)), { after with loops := s.loops })
  | (.error (.next n), after) =>
    (if n ≤ 1 then .ok true else .error (.next (n - 1)), { after with loops := s.loops })
  | (.error ending, after) => (.error ending, { after with loops := s.loops })

/-- A round of a loop leaves the number of loops as it is, however it ends. -/
theorem loops_oneRound (body : Run Unit) (s : State) : (oneRound body s).2.loops = s.loops := by
  rw [oneRound]
  split <;> rfl

/-- A round that is left leaves one loop fewer around it. -/
theorem oneRound_of_leave {body : Run Unit} {s after : State} {n : Nat}
    (h : body { s with loops := s.loops + 1 } = (.error (.leave (n + 2)), after)) :
    (oneRound body s).1 = .error (.leave (n + 1)) := by
  simp only [oneRound, h]
  rw [if_neg (by omega)]
  rfl

/-- Runs the body of a function with arguments. -/
def called (arguments : List String) (body : Run Unit) : Run Unit := fun s =>
  let (result, after) := body { s with arguments, locals := some [], loops := 0 }
  let restored := (after.locals.getD []).foldl (fun s (name, value) =>
    match value with
    | some value => s.setVariable name value
    | none => s.removeVariable name) after
  let after := { restored with arguments := s.arguments, locals := s.locals, loops := s.loops }
  match result with
  | .error .back => (.ok (), after)
  | result => (result, after)

/-- **A function gives back** the arguments, the variables and the loops of its caller. -/
theorem called_keeps (arguments : List String) (body : Run Unit) (s : State) :
    (called arguments body s).2.arguments = s.arguments ∧
      (called arguments body s).2.locals = s.locals ∧
      (called arguments body s).2.loops = s.loops := by
  rcases hbody : body { s with arguments, locals := some [], loops := 0 } with ⟨result, after⟩
  simp only [called, hbody]
  split <;> exact ⟨rfl, rfl, rfl⟩

/-- Going back from a function does not make its caller go back. -/
theorem called_ne_back (arguments : List String) (body : Run Unit) (s : State) :
    (called arguments body s).1 ≠ .error .back := by
  rcases hbody : body { s with arguments, locals := some [], loops := 0 } with ⟨result, after⟩
  simp only [called, hbody]
  split
  next => exact nofun
  next hne => exact fun h => hne h

mutual

/-- Runs the text of a script line by line. -/
def runText : (fuel : Nat) → (ends : Nat) → List Char → Run Unit
  | 0, _, _ => stop .exit
  | fuel + 1, ends, chars =>
    match readLine? ends chars with
    | .error fault => do
      modify fun s => { s with line := fault.line }
      fail fault.fault.message
    | .ok none => return
    | .ok (some (statements, rest)) => do
      runStatements fuel statements
      runText fuel ends rest

/-- Runs a shell of its own: an action, and then what it has asked to be run at the end. -/
def runShell : (fuel : Nat) → Run Unit → Run Unit
  | 0, _ => stop .exit
  | fuel + 1, action => confined do
    try action
    catch ending =>
      match ending with
      | .killed process signal => stop (.killed process signal)
      | _ => pure ()
    runAtExit fuel

/-- Runs what is to be run at the end. -/
def runAtExit : (fuel : Nat) → Run Unit
  | 0 => stop .exit
  | fuel + 1 => do
    let s ← get
    match s.traps.lookup 0 with
    | none => return
    | some text =>
      set { s with traps := s.traps.filter (·.1 ≠ 0), tested := true }
      try
        runText fuel (lineEnds text.toList) text.toList
        setStatus s.status
      catch _ => return

/-- Runs a script whose output becomes a part of a word. -/
def runOutput : (fuel : Nat) → List Statement → Run (List Char)
  | 0, _ => return []
  | fuel + 1, script => do
    let before ← get
    set { before with tested := false, status := 0 }
    let text ← captured (runShell fuel (runStatements fuel script))
    modify fun s => { s with
      outputStatus := s.status, status := before.status, tested := before.tested }
    return text

/-- Runs the words of a command that is neither a function nor changes only what the shell knows. -/
def runWords : (fuel : Nat) → List String → Run Unit
  | 0, _ => stop .exit
  | _, [] => return
  | fuel + 1, name :: words => do
    let s ← get
    match name, builtin? name with
    | name, some command => under s!"{name}: " (command words)
    | "eval", _ =>
      let text := (" ".intercalate words).toList
      setStatus 0
      under "eval: " (runText fuel (lineEnds text) text)
    | "exec", _ =>
      match words with
      | [] => setStatus 0
      | name :: _ =>
        -- the shell is replaced, so it ends whether the program is there or not
        if ¬ isProgram (toolName name) then do
          under "exec: " (complain s!"{name}: not found")
          setStatus 127
        else runProgram fuel (toolName name) name words.tail
        stop .exit
    | ".", _ =>
      match words with
      | [] => under ".: " (fail "Usage: . file")
      | path :: _ =>
        match s.store.contents? path with
        | none =>
          under ".: " (fail (if path.toList.contains '/' then s!"cannot open {path}: No such file"
            else s!"{path}: not found"))
        | some text =>
          setStatus 0
          -- a return in the file leaves the file, any other ending goes on to the caller
          try under s!"{path}: " (runText fuel (lineEnds text) text)
          catch ending => if ending = .back then return else stop ending
    | "command", _ =>
      match words with
      | "-v" :: names => runWhere fuel false names
      | "-V" :: names => runWhere fuel true names
      | words => runWords fuel words
    | "type", _ => runWhere fuel true words
    | name, _ =>
      match shellTool? name { s with front := s!"{name}: " }.complaint with
      | some tool => runTool tool words
      | none => waitedFor (runProgram fuel (toolName name) name words)

/-- Tells what words name, each of them or the first one. -/
def runWhere : (fuel : Nat) → (described : Bool) → List String → Run Unit
  | 0, _, _ => stop .exit
  | _, _, [] => setStatus 0
  | _ + 1, described, name :: _ => do
    let s ← get
    setStatus 0
    let say (text : String) : Run Unit := print 1 (text ++ "\n").toList
    if s.functions.any (·.1 = name) then
      say (if described then s!"{name} is a shell function" else name)
    else if name ∈ keywords then say (if described then s!"{name} is a shell keyword" else name)
    else if (builtin? name).isSome ∨ name ∈ runnerNames ∨
        (shellTool? name fun _ => []).isSome then
      let kind := if name ∈ specialNames then "special shell builtin" else "shell builtin"
      say (if described then s!"{name} is a {kind}" else name)
    else if isProgram name then
      say (if described then s!"{name} is /usr/bin/{name}" else s!"/usr/bin/{name}")
    else
      if described then say s!"{name}: not found"
      setStatus 127

/-- Runs a program by its name. -/
def runProgram : (fuel : Nat) → (name written : String) → List String → Run Unit
  | 0, _, _, _ => stop .exit
  | fuel + 1, name, written, words => do
    let s ← get
    match name with
    | "env" =>
      let table : OptionTable := ⟨"i0", "uC", [("ignore-environment", 'i'), ("null", '0'),
        ("unset", 'u'), ("chdir", 'C')]⟩
      match frontOptions written table [] words with
      | .error text => complainOf 125 text
      | .ok (options, words) =>
        let (clean, words) := match words with
          | "-" :: words => (true, words)
          | words => (hasOption options 'i', words)
        let settings := words.filterMap fun word =>
          (settingName? word.toList).map fun (name, value) => (name, String.ofList value)
        -- only the settings in front of the command are for its environment
        let settings := settings.take
          (words.takeWhile fun word => (settingName? word.toList).isSome).length
        let command := words.drop settings.length
        let removed := options.filterMap fun (letter, name) =>
          if letter = 'u' then some name else none
        modify fun s => { s with
          exported := s.exported.filter fun name => !clean && name ∉ removed }
        settings.forM fun (name, value) => modify fun s =>
          { s.setVariable name value with exported := name :: s.exported }
        if command.isEmpty then
          let after ← get
          let last := if hasOption options '0' then "\x00" else "\n"
          print 1 (after.bindings.reverse.flatMap fun (name, value) =>
            if after.exported.contains name then (s!"{name}={value}" ++ last).toList else [])
          setStatus 0
        else runOther fuel "env" command
        modify fun after => { after with bindings := s.bindings, exported := s.exported }
    | "printenv" =>
      setStatus 0
      let exported := s.bindings.filter fun (name, _) => s.exported.contains name
      let (last, words) := match words with
        | "-0" :: words | "--null" :: words => ("\x00", words)
        | words => ("\n", words)
      if words.isEmpty then
        exported.reverse.forM fun (name, value) => print 1 (s!"{name}={value}" ++ last).toList
      words.forM fun name =>
        match exported.lookup name with
        | some value => print 1 (value ++ last).toList
        | none => setStatus 1
    | "which" =>
      setStatus 0
      words.forM fun word =>
        if isProgram word then print 1 s!"/usr/bin/{word}\n".toList else setStatus 1
    | "kill" => under "kill: " (kill words)
    | "pwd" => print 1 (s.store.here ++ "\n").toList; setStatus 0
    | "xargs" =>
      match calls ⟨words, s.input, s.inputIsFile, s.store⟩ with
      | .error text => complainOf 1 text
      | .ok plan =>
        set { s with input := plan.rest, status := 0 }
        runCalls fuel plan.told plan.calls
        if plan.complaint ≠ [] then
          print 2 plan.complaint
          setStatus 1
    | "sh" | "dash" | "bash" => runNested fuel words
    | "awk" | "mawk" | "nawk" => awk (runAside fuel) words
    | name =>
      let complain (text : String) : List Char := s!"{written}: {text}\n".toList
      -- programs that run others, that write files, and the filters
      match launch? name words, filing? name, fileWriter? name, tool? name complain with
      | some (.run command), _, _, _ => runOther fuel name command
      | some (.answer text), _, _, _ => print 1 text.toList; setStatus 0
      | some (.refuse status text), _, _, _ => complainOf status text
      | _, some filing, _, _ => filing words
      | _, _, some tool, _ => runFileWriter tool words
      | _, _, _, some tool => runTool tool words
      | none, none, none, none =>
        -- a script file names the program that reads it in its first line
        match programWords? s.store written with
        | some (name :: front) => runProgram fuel (toolName name) name (front ++ words)
        | _ => commandMissing written

/-- Runs a text in a shell of its own for another program; the status of one that a signal has ended
is 256 and the signal. -/
def runAside : (fuel : Nat) → List Char → Run Unit
  | 0, _ => stop .exit
  | fuel + 1, text => fun s =>
    let action : Run Unit := fun _ =>
      (runText fuel (lineEnds text) text : Run Unit) (s.nested "/bin/sh" [])
    match runShell fuel action s with
    | (.error (.killed _ signal), after) => (.ok (), { after with status := 256 + signal })
    | other => other

/-- Runs the command of a tool that runs others. -/
def runOther : (fuel : Nat) → (tool : String) → List String → Run Unit
  | 0, _, _ => stop .exit
  | _, _, [] => setStatus 0
  | fuel + 1, tool, name :: words => do
    if isProgram (toolName name) then runProgram fuel (toolName name) name words
    else
      let quoted := if tool = "env" then s!"'{name}'" else
        if tool = "xargs" then name else s!"failed to run command '{name}'"
      complainOf 127 s!"{tool}: {quoted}: {noSuchFile}"

/-- Runs commands one after the other.  It ends with the first one that is not there, that a signal
ends or that asks for it by its status. -/
def runCalls : (fuel : Nat) → (told : Bool) → List (List String) → Run Unit
  | 0, _, _ => stop .exit
  | _, _, [] => return
  | fuel + 1, told, call :: rest => do
    let before := (← get).status
    let name := call.headD ""
    if told then print 2 (" ".intercalate (call.map quotedWord) ++ "\n").toList
    let signal ← signalOf (runOther fuel "xargs" call)
    let status := (← get).status
    match signal with
    | some signal => complainOf 125 s!"xargs: {name}: terminated by signal {signal}"
    | none =>
      if ¬ isProgram (toolName name) then return
      else if status = 255 then
        complainOf 124 s!"xargs: {name}: exited with status 255; aborting"
      else
        setStatus (if status ≠ 0 then 123 else before)
        runCalls fuel told rest

/-- Runs a shell of its own with words: a text, a file or the input as its script. -/
def runNested : (fuel : Nat) → List String → Run Unit
  | 0, _ => stop .exit
  | fuel + 1, words => fun s =>
    let flags := words.takeWhile fun word => word.startsWith "-" || word.startsWith "+"
    let rest := words.drop flags.length
    let letters := flags.flatMap fun flag => (flag.toList.drop 1).filter (· ≠ 'c')
    let asText := flags.any fun flag => flag.toList.contains 'c'
    let start (name : String) (arguments : List String) (text : List Char) (s : State) : Run Unit :=
      fun _ => (do
        letters.forM (switchOption true)
        runText fuel (lineEnds text) text : Run Unit) (s.nested name arguments)
    let action : Run Unit :=
      match asText, rest with
      | true, [] => fail s!"{s.name}: -c requires an argument"
      | true, text :: rest => start (rest.headD "sh") (rest.drop 1) text.toList s
      | false, [] => start "sh" [] s.input { s with input := [] }
      | false, path :: rest =>
        match s.store.contents? path with
        | some text => start path rest text s
        | none => fail s!"cannot open {path}: No such file"
    runShell fuel action s

/-- Runs a loop over words. -/
def runEach : (fuel : Nat) → (name : String) → (body : List Statement) → List String → Run Unit
  | 0, _, _, _ => stop .exit
  | _, _, _, [] => return
  | fuel + 1, name, body, word :: rest => do
    assign name word
    if ← oneRound (runStatements fuel body) then runEach fuel name body rest

/-- Runs a loop as long as its condition asks for it; its status is that of the last round. -/
def runLoop : (fuel : Nat) → (untilHolds : Bool) → (condition body : List Statement) →
    (status : Nat) → Run Unit
  | 0, _, _, _, _ => stop .exit
  | fuel + 1, untilHolds, condition, body, status => do
    let goesOn ← oneRound (testing (runStatements fuel condition))
    if ¬ goesOn ∨ ((← get).status = 0) = untilHolds then setStatus status
    else if ← oneRound (runStatements fuel body) then
      runLoop fuel untilHolds condition body (← get).status
    else return

/-- Runs the branch whose condition holds first. -/
def runChoice : (fuel : Nat) → (otherwise : List Statement) →
    List (List Statement × List Statement) → Run Unit
  | 0, _, _ => stop .exit
  | fuel + 1, otherwise, [] => do
    setStatus 0
    runStatements fuel otherwise
  | fuel + 1, otherwise, (condition, body) :: rest => do
    testing (runStatements fuel condition)
    if (← get).status = 0 then runStatements fuel body else runChoice fuel otherwise rest

/-- Runs the first branch that has a pattern for a text. -/
def runSelection : (fuel : Nat) → (text : List Char) → List (List Word × List Statement) → Run Unit
  | 0, _, _ => stop .exit
  | _, _, [] => setStatus 0
  | fuel + 1, text, (patterns, body) :: rest => do
    let found ← patterns.anyM fun pattern => do
      let pattern ← expandPattern (runOutput fuel) fuel pattern
      return Glob.accepts pattern text
    if found then
      if body.isEmpty then setStatus 0 else runStatements fuel body
    else runSelection fuel text rest

/-- Makes settings. -/
def runSettings : (fuel : Nat) → List (String × Word) → Run Unit
  | 0, _ => stop .exit
  | _, [] => return
  | fuel + 1, (name, word) :: rest => do
    let value ← expandSetting (runOutput fuel) fuel word
    assign name value
    if (← get).options.printCommands then print 2 s!"+ {name}={value}\n".toList
    runSettings fuel rest

/-- Runs a simple command. -/
def runSimple : (fuel : Nat) → (settings : List (String × Word)) → (words : List Word) →
    (redirections : List Redirection) → Run Unit
  | 0, _, _, _ => stop .exit
  | fuel + 1, settings, words, redirections => do
    -- without a command the status is the one of the last command substitution
    modify fun s => { s with outputStatus := 0 }
    let fields ← expandCommand (runOutput fuel) fuel [] words
    let s ← get
    let output := runOutput fuel
    if s.options.printCommands ∧ ¬ fields.isEmpty then
      print 2 ("+ " ++ " ".intercalate fields ++ "\n").toList
    match fields with
    | [] =>
      redirected output fuel false redirections do
        setStatus 0
        runSettings fuel settings
        modify fun s => { s with status := s.outputStatus }
    | ["exec"] =>
      runSettings fuel settings
      if ← openAll output fuel redirections then setStatus 0 else stop .exit
    | name :: words =>
      -- settings before a special command stay, before any other they are taken back
      if name ∈ specialNames then
        runSettings fuel settings
        redirected output fuel true redirections (runWords fuel fields)
      else
        redirected output fuel false redirections do
          let before ← get
          runSettings fuel settings
          modify fun s => { s with exported := settings.map (·.1) ++ s.exported }
          match s.functions.lookup name with
          | some body => called words (runCommand fuel body)
          | none => runWords fuel fields
          settings.forM fun (name, _) => modify fun s =>
            { before.restoreVariable name s with exported := before.exported }

/-- Runs what is to be run at the signals that have come. -/
def runTraps : (fuel : Nat) → Run Unit
  | 0 => stop .exit
  | fuel + 1 => do
    let s ← get
    match s.pending with
    | [] => return
    | number :: pending =>
      if s.outerTraps.isSome then return
      set { s with pending }
      let text := (s.traps.lookup number).getD ""
      runText fuel (lineEnds text.toList) text.toList
      setStatus s.status
      runTraps fuel

/-- Runs a command, and then what is to be run at the signals that have come meanwhile. -/
def runCommand : (fuel : Nat) → Command → Run Unit
  | 0, _ => stop .exit
  | fuel + 1, command => do
    runOne fuel command
    runTraps fuel

/-- Runs a command itself. -/
def runOne : (fuel : Nat) → Command → Run Unit
  | 0, _ => stop .exit
  | fuel + 1, command =>
    let within (redirections : List Redirection) (action : Run Unit) : Run Unit :=
      redirected (runOutput fuel) fuel false redirections action
    match command with
    | .simple line settings words redirections => do
      modify fun s => { s with line }
      runSimple fuel settings words redirections
      endOnFailure
    | .group false body redirections => within redirections (runStatements fuel body)
    -- in brackets: a shell of its own, of which only the output and the status are left
    | .group true body redirections => do
      within redirections (runShell fuel (runStatements fuel body))
      endOnFailure
    | .choice branches otherwise redirections =>
      within redirections (runChoice fuel otherwise branches)
    | .loop untilHolds condition body redirections =>
      within redirections (runLoop fuel untilHolds condition body 0)
    | .each name words body redirections => within redirections do
      let items ← expandWords (runOutput fuel) fuel words
      setStatus 0
      runEach fuel name body items
    | .selection word branches redirections => within redirections do
      let text ← expandText (runOutput fuel) fuel word
      runSelection fuel text.toList branches
    | .definition name body => modify fun s =>
      { s with functions := (name, body) :: s.functions.filter (·.1 ≠ name), status := 0 }

/-- Runs the commands of a pipeline, each in a shell of its own and with what the one before it has
printed as its input. -/
def runPipeline : (fuel : Nat) → List Command → Run Unit
  | 0, _ => stop .exit
  | _, [] => return
  | fuel + 1, [command] => runShell fuel (runCommand fuel command)
  | fuel + 1, command :: rest => do
    let text ← captured (runShell fuel (runCommand fuel command))
    let before ← get
    set { before with input := text, inputIsFile := false }
    runPipeline fuel rest
    modify fun s => { s with input := before.input, inputIsFile := before.inputIsFile }

/-- Runs a statement. -/
def runStatement : (fuel : Nat) → Statement → Run Unit
  | 0, _ => stop .exit
  | fuel + 1, statement =>
    match statement with
    | .pipeline negated commands => do
      let action : Run Unit := do
        match commands with
        | [command] => runCommand fuel command
        | commands =>
          runPipeline fuel commands
          endOnFailure
      -- a failure that is asked for does not end the script
      if negated then
        testing action
        modify fun s => { s with status := if s.status = 0 then 1 else 0 }
      else action
    | .both first second => do
      testing (runStatement fuel first)
      if (← get).status = 0 then runStatement fuel second
    | .either first second => do
      testing (runStatement fuel first)
      if (← get).status ≠ 0 then runStatement fuel second
    -- run to its end at once, with nothing to read; the script sees no failure of it
    | .aside statement => do
      let before ← get
      set { before with input := [] }
      runShell fuel (runStatement fuel statement)
      modify fun s => { s with
        input := before.input, inputIsFile := before.inputIsFile, status := 0 }

/-- Runs statements one after the other. -/
def runStatements : (fuel : Nat) → List Statement → Run Unit
  | 0, _ => stop .exit
  | _, [] => return
  | fuel + 1, statement :: rest => do
    runStatement fuel statement
    runStatements fuel rest

end

/-! ### Scripts -/

/-- What comes of a script: its two streams and its status, unless a signal has ended it. -/
structure Result where
  stdout : List Char
  stderr : List Char
  status : Option Nat
deriving DecidableEq, Repr

/-- How many steps a script may take. -/
def stepLimit : Nat := 100000

/-- Runs a script from its text, with an input and files. -/
def run (script : List Char) (input : List Char) (files : List (String × List Char)) : Result :=
  let shell : Run Unit := do
    modify fun s => { s with outerTraps := none }
    runText stepLimit (lineEnds script) script
  let (ending, s) := runShell stepLimit shell (State.initial input (.initial files))
  let status := match ending with
    | .error (.killed _ _) => none
    | _ => some s.status
  ⟨s.printedOn 1, s.printedOn 2, status⟩

end Shell

end TreeOutline
