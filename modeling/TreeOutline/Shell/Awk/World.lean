import TreeOutline.Shell.Awk.Program
import TreeOutline.Shell.Awk.Value
import TreeOutline.Shell.Filing

namespace TreeOutline

/-!
# What a program for records knows

* `Shell.Awk.World` — variables, tables, the record, what is read and what is printed.
* `Shell.Awk.Stop` — why a part of a program stops early; `Shell.Awk.Act` — actions of a program.
* `World.slot`, `World.setSlot` — variables by their names; `World.slot_setSlot` says what is set.
* `getScalar`, `setScalar`, `setRecord`, `setField` — variables and fields.
* `nextInput`, `nextFrom` — the next record of the input, and that of a file or command.
* `emit`, `closeStream`, `flushAll` — printing.
-/

namespace Shell

namespace Awk

/-- A variable: its value, and the number of its table once it has been used as one. -/
structure Slot where
  value : Value
  table : Option Nat

instance : Inhabited Slot := ⟨⟨.unset, none⟩⟩

/-- A file or command that records are read from: what is left, and the status of the command. -/
structure Source where
  name : List Char
  isCommand : Bool
  rest : List Char
  status : Nat

/-- A file or command that is printed to: what a command is going to get. -/
structure Sink where
  name : List Char
  isCommand : Bool
  waiting : List (List Char)

/-- What a program knows. -/
structure World where
  functions : List Function
  /-- What a command does in a shell. -/
  command : List Char → Run Unit
  globals : List (String × Slot)
  /-- The variables of the function that is being run. -/
  locals : List (String × Slot)
  tables : Array Table
  record : Value
  fields : List Value
  /-- What is left of the input that is being read, if one is. -/
  current : Option (List Char)
  /-- The number of the next argument, and whether any of them has been a file. -/
  nextArgument : Nat
  hadFile : Bool
  sources : List Source
  /-- Those that have been used last in front. -/
  sinks : List Sink
  /-- What has been printed but not passed on yet, latest first. -/
  printed : List (List Char)
  /-- The numbers of the rules whose ranges are open. -/
  openRanges : List Nat
  status : Nat
  seed : Float
  shell : State

/-- Why a part of a program stops early. -/
inductive Stop where
  | next
  | nextFile
  | exit
  | leave
  | again
  | back (value : Value)
  /-- A complaint that ends the program. -/
  | failed (text : List Char)

/-- An action of a program. -/
abbrev Act := ExceptT Stop (StateM World)

/-! ### Variables -/

namespace World

/-- A variable. -/
def slot (w : World) (name : String) : Slot :=
  ((w.locals.lookup name).or (w.globals.lookup name)).getD ⟨.unset, none⟩

/-- Changes a variable. -/
def setSlot (w : World) (name : String) (slot : Slot) : World :=
  let replaced (slots : List (String × Slot)) : List (String × Slot) :=
    slots.map fun (other, old) => (other, if other = name then slot else old)
  if w.locals.any (·.1 = name) then { w with locals := replaced w.locals }
  else if w.globals.any (·.1 = name) then { w with globals := replaced w.globals }
  else { w with globals := (name, slot) :: w.globals }

/-- The variables of a list of them after one has been set, if it is there. -/
theorem lookup_replaced (slots : List (String × Slot)) (name other : String) (slot : Slot) :
    (slots.map fun (key, old) => (key, if key = name then slot else old)).lookup other =
      if other = name then (slots.lookup other).map fun _ => slot else slots.lookup other := by
  induction slots with
  | nil => simp
  | cons entry rest ih =>
    obtain ⟨key, old⟩ := entry
    rw [List.map_cons, List.lookup_cons, List.lookup_cons, ih]
    by_cases hother : other = key
    · subst hother
      by_cases hname : other = name <;> simp [hname]
    · rw [beq_false_of_ne hother]

/-- **A variable that is set** has what it is set to, and the others keep what they have. -/
theorem slot_setSlot (w : World) (name other : String) (slot : Slot) :
    (w.setSlot name slot).slot other = if other = name then slot else w.slot other := by
  unfold setSlot
  simp only [any_eq_isSome_lookup]
  split
  next hlocal =>
    rw [World.slot, lookup_replaced]
    by_cases hother : other = name
    · obtain ⟨old, hold⟩ := Option.isSome_iff_exists.1 hlocal
      simp [hother, hold]
    · simp [hother, World.slot]
  next hlocal =>
    have hnone : w.locals.lookup name = none := Option.not_isSome_iff_eq_none.1 hlocal
    split
    next hglobal =>
      rw [World.slot, lookup_replaced]
      by_cases hother : other = name
      · obtain ⟨old, hold⟩ := Option.isSome_iff_exists.1 hglobal
        simp [hother, hnone, hold]
      · simp [hother, World.slot]
    next =>
      rw [World.slot, List.lookup_cons]
      by_cases hother : other = name
      · simp [hother, hnone]
      · rw [beq_false_of_ne hother, if_neg hother]
        rfl

/-- The value of a variable that is no count of fields. -/
def value (w : World) (name : String) : Value := (w.slot name).value

/-- Sets the value of a variable that is no count of fields. -/
def setValue (w : World) (name : String) (value : Value) : World :=
  w.setSlot name { w.slot name with value }

/-- The format in which numbers become texts. -/
def convertFormat (w : World) : List Char :=
  match w.value "CONVFMT" with
  | .text chars | .input chars => chars
  | _ => "%.6g".toList

/-- The text of a value. -/
def text (w : World) (value : Value) : List Char := value.toText w.convertFormat

/-- The text of a variable. -/
def textOf (w : World) (name : String) : List Char := w.text (w.value name)

/-- Gives a variable a table, unless it has one, and tells its number. -/
def withTable (w : World) (name : String) : Nat × World :=
  let slot := w.slot name
  match slot.table with
  | some number => (number, w)
  | none =>
    let number := w.tables.size
    (number, { w with tables := w.tables.push [] }.setSlot name { slot with table := some number })

/-- The table of a variable. -/
def table (w : World) (name : String) : Table :=
  ((w.slot name).table.bind fun number => w.tables[number]?).getD []

/-- Changes the table of a variable. -/
def setTable (w : World) (name : String) (table : Table) : World :=
  let (number, w) := w.withTable name
  { w with tables := w.tables.setIfInBounds number table }

end World

/-- Ends the program with a complaint about what it does. -/
def failRunning {α : Type} (text : String) : Act α := do
  let w ← get
  let number (name : String) : Int := fittingInteger (w.value name).toNumber
  let (inFile, inAll) := (number "FNR", number "NR")
  let file := String.ofList (lowered (w.textOf "FILENAME"))
  throw (.failed (s!"run time error: {text}\n\tFILENAME=\"{file}\" " ++
    s!"FNR={inFile} NR={inAll}").toList)

/-- The separator that a variable names. -/
def separatorOf (chars : List Char) : Act Separator := do
  match separator chars with
  | .ok separator => return separator
  | .error fault =>
    failRunning
      s!"regular expression compile failed ({fault.message})\n{String.ofList (lowered chars)}"

/-! ### Fields -/

/-- Sets the record and splits it into fields. -/
def setRecord (value : Value) : Act Unit := do
  let w ← get
  let separator ← separatorOf (w.textOf "FS")
  let value : Value := match value with
    | .text chars => .input chars
    | value => value
  let fields := (fieldsOf separator (w.text value)).map Value.input
  modify fun w => { w with record := value, fields }

/-- Sets the fields, and the record from them. -/
def setFields (fields : List Value) : Act Unit := modify fun w =>
  { w with
    fields
    record := .input ((w.textOf "OFS").intercalate (fields.map w.text)) }

/-- The number of a field, if it is one. -/
def fieldNumber (value : Value) : Act Nat := do
  let n := fittingInteger value.toNumber
  if n < 0 then failRunning s!"negative field index ${n}"
  else return n.toNat

/-- A field; field zero is the record. -/
def getField (n : Nat) : Act Value := do
  let w ← get
  return if n = 0 then w.record else (w.fields[n - 1]?).getD .unset

/-- Sets a field. -/
def setField (n : Nat) (value : Value) : Act Unit := do
  let w ← get
  if n = 0 then setRecord value
  else
    let fields := w.fields ++ List.replicate (n - w.fields.length) (Value.text [])
    setFields (fields.set (n - 1) value)

/-- The value of a variable. -/
def getScalar (name : String) : Act Value := do
  let w ← get
  if name = "NF" then return .number w.fields.length.toFloat else return w.value name

/-- Sets the value of a variable. -/
def setScalar (name : String) (value : Value) : Act Unit := do
  let w ← get
  if name = "NF" then
    let n := (fittingInteger value.toNumber).toNat
    setFields ((w.fields ++ List.replicate (n - w.fields.length) (Value.text [])).take n)
  else modify (·.setValue name value)

/-- Adds one to a variable. -/
def increment (name : String) : Act Unit :=
  modify fun w => w.setValue name (.number ((w.value name).toNumber + 1))

/-! ### Printing -/

/-- Passes on what has been printed. -/
def World.flush (w : World) : World :=
  { w with printed := [], shell := w.shell.print 1 (lowered w.printed.reverse.flatten) }

/-- Runs a command in a shell, with an input of its own if there is one; its status is told. -/
def World.runCommand (w : World) (text : List Char) (input : Option (List Char)) : Nat × World :=
  let w := w.flush
  let before := w.shell
  let shell := match input with
    | some input => { before with input, inputIsFile := false }
    | none => before
  let (_, after) := w.command (lowered text) shell
  let restored := if input.isSome then
    { after with input := before.input, inputIsFile := before.inputIsFile } else after
  (after.status, { w with shell := restored })

/-- Runs the command that a sink leads to. -/
def World.finish (w : World) (sink : Sink) : Nat × World :=
  if sink.isCommand then
    let shell := w.shell
    let input := { shell with input := lowered sink.waiting.reverse.flatten, inputIsFile := false }
    let (_, after) := w.command (lowered sink.name) input
    (after.status,
      { w with
        shell := { after with input := shell.input, inputIsFile := shell.inputIsFile } })
  else (0, w)

/-- The sink with a name, which is opened if need be and comes to the front. -/
def openSink (name : List Char) (isCommand append : Bool) : Act Sink := do
  let w ← get
  match w.sinks.find? (·.name = name) with
  | some sink =>
    set { w with sinks := sink :: w.sinks.filter (·.name ≠ name) }
    return sink
  | none =>
    let sink : Sink := ⟨name, isCommand, []⟩
    if isCommand then set { w.flush with sinks := sink :: w.sinks }
    else
      let path := String.ofList (lowered name)
      match w.shell.store.hindrance? path with
      | some fault =>
        throw (.failed s!"cannot open \"{path}\" for output ({fault.message})".toList)
      | none =>
        let shell := if append then w.shell.appendFile path [] else w.shell.writeFile path []
        set { w with shell, sinks := sink :: w.sinks }
    return sink

/-- Prints a text; without a name on the program's own output. -/
def emit (target : Option (List Char × Bool × Bool)) (chars : List Char) : Act Unit := do
  match target with
  | none => modify fun w => { w with printed := chars :: w.printed }
  | some (name, isCommand, append) =>
    match isCommand, String.ofList name with
    | false, "/dev/stdout" | false, "-" => modify fun w => { w with printed := chars :: w.printed }
    | false, "/dev/stderr" => modify fun w => { w with shell := w.shell.print 2 (lowered chars) }
    | false, "/dev/null" => return
    | _, path =>
      let sink ← openSink name isCommand append
      let w ← get
      if isCommand then
        set { w with sinks := { sink with waiting := chars :: sink.waiting } :: w.sinks.drop 1 }
      else
        let path := String.ofList (lowered path.toList)
        set { w with shell := w.shell.appendFile path (lowered chars) }

/-- Closes all that has a name; the status of the last command among them, or `none` where there is
nothing to be closed. -/
def closeStream (name : List Char) : Act (Option Nat) := do
  let w ← get
  let sink := w.sinks.find? (·.name = name)
  let source := w.sources.find? (·.name = name)
  let w := { w with
    sinks := w.sinks.filter (·.name ≠ name)
    sources := w.sources.filter (·.name ≠ name) }
  match sink, source with
  | some sink, _ =>
    let (status, w) := w.finish sink
    set w
    return some status
  | none, some source =>
    set w
    return some source.status
  | none, none => return none

/-- Closes what is printed to, the last used first, and passes on the rest. -/
def World.closeAll (w : World) : World :=
  let w' := w.sinks.foldl (fun w sink => (w.finish sink).2) w
  { w' with sinks := [] }.flush

/-! ### Reading -/

/-- Takes all that is left of the input of the shell. -/
def takeInput : Act (List Char) := do
  let w ← get
  set { w with shell := { w.shell with input := [] } }
  return raised w.shell.input

/-- Begins to read a file. -/
def openFile (path : List Char) (chars : List Char) : Act Unit :=
  modify fun w => { w with current := some chars, hadFile := true }
    |>.setValue "FILENAME" (.text path) |>.setValue "FNR" (.number 0)

/-- The next record of the files that the arguments name, or of the input where none does. -/
def nextInput : (fuel : Nat) → Act (Option (List Char))
  | 0 => return none
  | fuel + 1 => do
    let w ← get
    match w.current with
    | some chars =>
      match firstRecord? (← separatorOf (w.textOf "RS")) chars with
      | some (record, rest) =>
        set { w with current := some rest }
        return some record
      | none =>
        set { w with current := none }
        nextInput fuel
    | none =>
      -- the count and the list of arguments may have been changed by the program
      let count := (fittingInteger (w.value "ARGC").toNumber).toNat
      if w.nextArgument < count then
        let key := (toString w.nextArgument).toList
        let argument := w.text (((w.table "ARGV").lookup key).getD .unset)
        set { w with nextArgument := w.nextArgument + 1 }
        readArgument argument
        nextInput fuel
      -- no file among the arguments: the input is read
      else if w.hadFile then return none
      else
        openFile ['-'] (← takeInput)
        nextInput fuel
where
  /-- Sets the variable that an argument names, or begins to read a file. -/
  readArgument (argument : List Char) : Act Unit := do
    let path := String.ofList (lowered argument)
    match settingName? argument with
    | some (name, value) => setScalar name (.input (withEscapes value))
    | none =>
      if argument.isEmpty then return
      else if path ∈ ["-", "/dev/stdin"] then openFile argument (← takeInput)
      else
        match (← get).shell.opened? path with
        | some chars => openFile argument (raised chars)
        | none => throw (.failed s!"cannot open \"{path}\" ({noSuchFile})".toList)

/-- How many arguments and files there can be to step through. -/
def inputSteps : Nat := 100000

/-- The next record of a file or of what a command prints; `none` where the file is not there, and
nothing within it at the end. -/
def nextFrom (name : List Char) (isCommand : Bool) : Act (Option (Option (List Char))) := do
  let w ← get
  let opened ← match w.sources.find? fun s => s.name = name ∧ s.isCommand = isCommand with
    | some source => pure (some source)
    | none =>
      let path := String.ofList (lowered name)
      if isCommand then
        -- what was printed before has to be out before the command prints
        let w := w.flush
        let (result, shell) := captured (w.command (lowered name)) w.shell
        let text := match result with
          | .ok text => text
          | .error _ => []
        set { w with shell }
        pure (some (Source.mk name true (raised text) shell.status))
      else if path ∈ ["-", "/dev/stdin"] then pure (some ⟨name, false, ← takeInput, 0⟩)
      else pure ((w.shell.opened? path).map fun text => ⟨name, false, raised text, 0⟩)
  match opened with
  | none => return none
  | some source =>
    let separator ← separatorOf ((← get).textOf "RS")
    let keep (rest : List Char) : Act Unit := modify fun w =>
      { w with sources := { source with rest } ::
          w.sources.filter fun s => ¬ (s.name = name ∧ s.isCommand = isCommand) }
    match firstRecord? separator source.rest with
    | some (record, rest) =>
      keep rest
      return some (some record)
    | none =>
      keep []
      return some none

end Awk

end Shell

end TreeOutline
