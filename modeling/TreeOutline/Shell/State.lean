import TreeOutline.Shell.Script
import TreeOutline.Shell.Store

namespace TreeOutline

/-!
# What a running script knows

* `Shell.State` — variables, functions, options, input, files and what has been printed.
* `Shell.Ending` — why a script or a part of it stops early.
* `Shell.Run` — actions of a script, which change its state and may stop it.
* `Shell.print`, `Shell.complain`, `Shell.fail` — printing on a stream, and messages.
* `Shell.captured`, `Shell.confined` — actions whose output or whose changes are kept apart;
  `Shell.under` — an action that is named in front of its messages.
* `State.lookup_setVariable`, `State.printedOn_print`, `Shell.confined_keeps` — what these change
  and what they leave alone.
-/

namespace Shell

/-- Where a stream leads.  A channel collects what is printed. -/
inductive Target where
  | channel (number : Nat)
  | file (path : String)
  | nowhere
deriving DecidableEq, Repr

/-- What a script has been asked for: to end at the first command that fails, to refuse parameters
that are not set, to print its commands, and to leave patterns for paths as they are. -/
structure Options where
  endOnFailure : Bool
  refuseUnset : Bool
  printCommands : Bool
  plainPaths : Bool
deriving DecidableEq, Repr

/-- What a running script knows. -/
structure State where
  bindings : List (String × String)
  exported : List String
  constants : List String
  functions : List (String × Command)
  arguments : List String
  options : Options
  /-- The status of the last command. -/
  status : Nat
  /-- The line of the command that is run. -/
  line : Nat
  /-- The number under which the shell runs, and the name it goes by in messages. -/
  process : Nat
  name : String
  /-- What stands in front of a message: the command or the file that is being run. -/
  front : String
  /-- Whether a failure only decides what is done next. -/
  tested : Bool
  /-- The status of the last script whose output has become a part of a word. -/
  outputStatus : Nat
  /-- How many loops are being run. -/
  loops : Nat
  /-- What the variables of the function that is being run were before, if there is one. -/
  locals : Option (List (String × Option String))
  /-- How far the options of the word in front of `OPTIND` have been read, if they are. -/
  optionPlace : Option Nat
  /-- What is run at signals, which are their numbers, and at the end, which is zero; an empty text
  makes the shell deaf to a signal. -/
  traps : List (Nat × String)
  /-- The same of the shell that this one is only a part of, if it is. -/
  outerTraps : Option (List (Nat × String))
  /-- The signals that nobody has listened to from the beginning, and those that have come. -/
  ignored : List Nat
  pending : List Nat
  input : List Char
  inputIsFile : Bool
  store : Store
  streams : List (Nat × Target)
  /-- The number of channels so far, and what has been printed on them, latest first. -/
  channels : Nat
  printed : List (Nat × List Char)

/-- Why a script or a part of it stops early. -/
inductive Ending where
  | exit
  | killed (process signal : Nat)
  /-- Back from a function. -/
  | back
  /-- Out of a number of loops. -/
  | leave (loops : Nat)
  /-- On with the next round of a loop, after leaving those inside of it. -/
  | next (loops : Nat)
deriving DecidableEq, Repr

/-- An action of a script.  What has been done before it stops stays done. -/
abbrev Run := ExceptT Ending (StateM State)

namespace State

/-- A shell that has just been started with an input and files; its output and its complaints go to
the first two channels. -/
def initial (input : List Char) (store : Store) : State where
  bindings := [("IFS", " \t\n"), ("PATH", "/usr/bin:/bin"), ("HOME", "/root"), ("OPTIND", "1"),
    ("PWD", store.here)]
  exported := ["PATH", "HOME", "PWD"]
  constants := []
  functions := []
  arguments := []
  options := ⟨false, false, false, false⟩
  status := 0
  line := 1
  -- the number of the process is not the same in two runs, so any will do
  process := 4711
  name := "sh"
  front := ""
  tested := false
  outputStatus := 0
  loops := 0
  locals := none
  optionPlace := none
  traps := []
  outerTraps := none
  ignored := []
  pending := []
  input
  inputIsFile := false
  store
  streams := [(1, .channel 1), (2, .channel 2)]
  channels := 2
  printed := []

/-- What has been printed on a channel. -/
def printedOn (s : State) (channel : Nat) : List Char :=
  (s.printed.reverse.filter (·.1 = channel)).flatMap (·.2)

/-- Adds to the end of a file, which need not be there. -/
def appendFile (s : State) (path : String) (text : List Char) : State :=
  { s with store := s.store.append path text }

/-- Prints on a stream. -/
def print (s : State) (stream : Nat) (text : List Char) : State :=
  match s.streams.lookup stream with
  | some (.channel number) =>
    if text.isEmpty then s else { s with printed := (number, text) :: s.printed }
  | some (.file path) => s.appendFile path text
  | some .nowhere | none => s

/-- **What is printed on a stream** is added to what its channel has collected, and no other one
collects anything. -/
theorem printedOn_print (s : State) (stream : Nat) (text : List Char) (channel : Nat) :
    (s.print stream text).printedOn channel =
      s.printedOn channel ++
        if s.streams.lookup stream = some (.channel channel) then text else [] := by
  unfold print
  split
  next number hstream =>
    by_cases hempty : text = []
    · simp [hempty]
    · rw [if_neg (by simpa using hempty)]
      unfold printedOn
      rw [List.reverse_cons, List.filter_append, List.flatMap_append]
      by_cases hnumber : number = channel
      · simp [hstream, hnumber]
      · simp [hstream, hnumber]
  next path hstream => simp [hstream, appendFile, printedOn]
  next hstream => simp [hstream]
  next hstream =>
    rw [hstream]
    simp

/-- Removes a variable. -/
def removeVariable (s : State) (name : String) : State :=
  { s with bindings := s.bindings.filter (·.1 ≠ name) }

/-- What the variables are after one of them is removed. -/
theorem lookup_removeVariable (s : State) (name other : String) :
    (s.removeVariable name).bindings.lookup other =
      if other = name then none else s.bindings.lookup other :=
  lookup_filter_ne name other s.bindings

/-- Sets a variable. -/
def setVariable (s : State) (name value : String) : State :=
  { s with bindings := (name, value) :: s.bindings.filter (·.1 ≠ name) }

/-- What the variables are after one of them is set. -/
theorem lookup_setVariable (s : State) (name value other : String) :
    (s.setVariable name value).bindings.lookup other =
      if other = name then some value else s.bindings.lookup other := by
  show List.lookup other ((name, value) :: s.bindings.filter _) = _
  rw [List.lookup_cons, lookup_filter_ne]
  by_cases hother : other = name
  · simp [hother]
  · rw [if_neg hother, if_neg hother, beq_false_of_ne hother]

/-- Gives a variable of `t` the value back that it has in `s`. -/
def restoreVariable (s : State) (name : String) (t : State) : State :=
  match s.bindings.lookup name with
  | some value => t.setVariable name value
  | none => t.removeVariable name

/-- **A variable that gets its value back** is as before, set or not, and no other one changes. -/
theorem lookup_restoreVariable (s : State) (name : String) (t : State) (other : String) :
    (s.restoreVariable name t).bindings.lookup other =
      if other = name then s.bindings.lookup name else t.bindings.lookup other := by
  unfold restoreVariable
  split
  next value hvalue => rw [lookup_setVariable, hvalue]
  next hvalue => rw [lookup_removeVariable, hvalue]

/-- The value of a parameter, if it is set. -/
def parameter? (s : State) (name : String) : Option String :=
  match name with
  | "?" => some (toString s.status)
  | "$" => some (toString s.process)
  | "#" => some (toString s.arguments.length)
  | "0" => some s.name
  | "-" => some ((if s.options.endOnFailure then "e" else "") ++
      (if s.options.plainPaths then "f" else "") ++ (if s.options.printCommands then "x" else "") ++
      (if s.options.refuseUnset then "u" else ""))
  | "@" | "*" => some (" ".intercalate s.arguments)
  | name =>
    match name.toNat? with
    | some n => if n = 0 then some s.name else s.arguments[n - 1]?
    | none => s.bindings.lookup name

/-- The characters between which fields are split. -/
def separators (s : State) : List Char := ((s.bindings.lookup "IFS").getD " \t\n").toList

end State

/-! ### Actions -/

/-- Prints on a stream. -/
def print (stream : Nat) (text : List Char) : Run Unit := modify (·.print stream text)

/-- Sets the status of the last command. -/
def setStatus (status : Nat) : Run Unit := modify fun s => { s with status }

/-- Stops. -/
def stop {α : Type} (ending : Ending) : Run α := throw ending

/-- A message under the name of the shell, with the line that is run and what it is about. -/
def State.complaint (s : State) (text : String) : List Char :=
  s!"{s.name}: {s.line}: {s.front}{text}\n".toList

/-- Prints a message. -/
def complain (text : String) : Run Unit := modify fun s => s.print 2 (s.complaint text)

/-- Goes on with a message and the status for what cannot be done. -/
def refuse (text : String) : Run Unit := do
  complain text
  setStatus 2

/-- Ends the script with a message. -/
def fail {α : Type} (text : String) : Run α := do
  complain text
  setStatus 2
  stop .exit

/-- Sets a variable that may be set. -/
def assign (name value : String) : Run Unit := do
  if (← get).constants.contains name then fail s!"{name}: is read only"
  else
    modify fun s =>
      let s := s.setVariable name value
      if name = "OPTIND" then { s with optionPlace := none } else s

/-- Runs an action and collects what it prints; what stops it stops everything. -/
def captured (action : Run Unit) : Run (List Char) := fun s =>
  let channel := s.channels + 1
  let streams := (1, .channel channel) :: s.streams.filter (·.1 ≠ 1)
  let (result, after) := action { s with channels := channel, streams }
  let text := after.printedOn channel
  let printed := after.printed.filter (·.1 ≠ channel)
  (result.map fun _ => text, { after with streams := s.streams, channels := s.channels, printed })

/-- Capturing what an action prints leaves the streams and their channels as they were. -/
theorem captured_streams (action : Run Unit) (s : State) :
    (captured action s).2.streams = s.streams ∧ (captured action s).2.channels = s.channels :=
  ⟨rfl, rfl⟩

/-- Runs an action whose messages have something in front of them. -/
def under (front : String) (action : Run Unit) : Run Unit := fun s =>
  let (result, after) := action { s with front }
  (result, { after with front := s.front })

/-- Runs an action in a shell of its own: nothing is kept of it but what it prints, what it does to
files, what it leaves of the input, its status, and the signals that have come.  It keeps only
deafness to signals.  Only a signal stops more than itself. -/
def confined (action : Run Unit) : Run Unit := fun s =>
  let (result, after) := action { s with
    traps := s.traps.filter fun (_, text) => text = "", outerTraps := s.outerTraps.or s.traps }
  let kept := { s with
    status := after.status, input := after.input, printed := after.printed
    store := { after.store with here := s.store.here }, pending := after.pending }
  match result with
  | .error (.killed process signal) => (.error (.killed process signal), kept)
  | _ => (.ok (), kept)

/-- **A shell of its own** changes no variable, no function and no argument of the outer one, and
does not lead it to another directory. -/
theorem confined_keeps (action : Run Unit) (s : State) :
    let after := (confined action s).2
    after.bindings = s.bindings ∧ after.exported = s.exported ∧ after.functions = s.functions ∧
      after.arguments = s.arguments ∧ after.options = s.options ∧ after.traps = s.traps ∧
      after.streams = s.streams ∧ after.store.here = s.store.here := by
  unfold confined
  rcases action _ with ⟨result, after⟩
  dsimp only
  split
  next => exact ⟨rfl, rfl, rfl, rfl, rfl, rfl, rfl, rfl⟩
  next => exact ⟨rfl, rfl, rfl, rfl, rfl, rfl, rfl, rfl⟩

/-- Only a signal stops more than the inner shell. -/
theorem confined_result (action : Run Unit) (s : State) :
    (confined action s).1 = .ok () ∨
      ∃ process signal, (confined action s).1 = .error (.killed process signal) := by
  unfold confined
  rcases action _ with ⟨result, after⟩
  dsimp only
  split
  next process signal => exact .inr ⟨process, signal, rfl⟩
  next => exact .inl rfl

/-- Runs an action on whose failure only depends what is done next. -/
def testing (action : Run Unit) : Run Unit := fun s =>
  let (result, after) := action { s with tested := true }
  (result, { after with tested := s.tested })

end Shell

end TreeOutline
