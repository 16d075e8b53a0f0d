import TreeOutline.Shell.Awk.Reader
import TreeOutline.Shell.Awk.World

namespace TreeOutline

/-!
# Running programs for records

* `Shell.Awk.evaluate` — the value of an expression; `Shell.Awk.execute` — what a statement does.
* `Shell.Awk.runProgram` — a program with its rules for the start, each record and the end.
* `Shell.awk` — the tool.
-/

namespace Shell

namespace Awk

/-- The truth as a number. -/
def truth (b : Bool) : Value := .number (if b then 1 else 0)

/-- The result of an operation. -/
def Operation.apply (operation : Operation) (x y : Float) : Float :=
  match operation with
  | .plus => x + y
  | .minus => x - y
  | .times => x * y
  | .over => x / y
  | .modulo => remainder x y
  | .power => Float.pow x y

/-- Whether a comparison holds in an order. -/
def Relation.holds (relation : Relation) (order : Option Ordering) : Bool :=
  match relation, order with
  | .less, some .lt | .lessOrEqual, some .lt | .lessOrEqual, some .eq => true
  | .equal, some .eq | .greaterOrEqual, some .eq => true
  | .greater, some .gt | .greaterOrEqual, some .gt => true
  | .different, some .eq => false
  | .different, _ => true
  | _, _ => false

/-! ### Functions on texts -/

/-- A part of a text, from a position on and so long.  In front of the first letter there is
nothing, but a position there makes the part longer. -/
def partOf (chars : List Char) (first : Int) (count : Option Int) : List Char :=
  let count := count.map fun n => if first < 0 then n - first else n
  let rest := chars.drop (max first 1 - 1).toNat
  match count with
  | some n => rest.take n.toNat
  | none => rest

/-- A part of a text stands in it, wherever it begins and however long it is to be. -/
theorem partOf_infix (chars : List Char) (first : Int) (count : Option Int) :
    partOf chars first count <:+: chars := by
  simp only [partOf]
  split
  · exact (List.take_prefix _ _).isInfix.trans (List.drop_suffix _ _).isInfix
  · exact (List.drop_suffix _ _).isInfix

/-- The position of a text in another one, zero where it is not found. -/
def positionOf (chars part : List Char) : Nat :=
  if chars.isEmpty then 0
  else (((List.range (chars.length + 1)).find? fun i =>
    part.isPrefixOf (chars.drop i)).map (· + 1)).getD 0

/-- **The position of a text** is not zero exactly where it is found; in an empty text nothing
is. -/
theorem positionOf_pos_iff {chars part : List Char} :
    0 < positionOf chars part ↔ chars ≠ [] ∧ part <:+: chars := by
  rw [positionOf]
  by_cases hempty : chars = []
  · simp [hempty]
  · rw [if_neg (by simpa using hempty)]
    cases hfind : (List.range (chars.length + 1)).find? fun i => part.isPrefixOf (chars.drop i) with
    | none =>
      refine iff_of_false (Nat.lt_irrefl 0) fun ⟨_, front, back, hsplit⟩ => ?_
      have hfront : front.length < chars.length + 1 := by
        rw [← hsplit]
        simp only [List.length_append]
        omega
      refine List.find?_eq_none.1 hfind front.length (List.mem_range.2 hfront) ?_
      rw [List.isPrefixOf_iff_prefix, ← hsplit, List.append_assoc, List.drop_left]
      exact List.prefix_append _ _
    | some i =>
      have hstart : part.isPrefixOf (chars.drop i) = true := by simpa using List.find?_some hfind
      refine iff_of_true (Nat.succ_pos i) ⟨hempty, ?_⟩
      exact (List.isPrefixOf_iff_prefix.1 hstart).isInfix.trans (List.drop_suffix i chars).isInfix

/-- What stands in the place of a match: an ampersand is the match, unless a backslash masks it. -/
def replacement (found : List Char) : (fuel : Nat) → List Char → List Char
  | 0, _ => []
  | fuel + 1, chars =>
    let slashes := chars.takeWhile (· = '\\')
    let rest := chars.drop slashes.length
    match rest with
    | '&' :: rest =>
      List.replicate (slashes.length / 2) '\\' ++
        (if slashes.length % 2 = 1 then ['&'] else found) ++ replacement found fuel rest
    | c :: rest => slashes ++ c :: replacement found fuel rest
    | [] => slashes

/-- A text with matches replaced, the first one or all; and how many have been.  An empty match does
not count right behind another one. -/
def substituted (pattern : Pattern) (text : List Char) (everywhere : Bool) :
    (fuel : Nat) → (behindMatch : Bool) → Place → List Char × Nat
  | 0, _, place => (place.rest, 0)
  | fuel + 1, behindMatch, place =>
    match firstMatch? pattern place with
    | none => (place.rest, 0)
    | some (first, last) =>
      let skipped := first.since place
      let found := last.since first
      let piece := replacement found (text.length + 1) text
      if found.isEmpty then
        -- an empty match right behind another one does not count
        let taken : List Char × Nat :=
          if behindMatch ∧ skipped.isEmpty then ([], 0) else (piece, 1)
        match first.rest with
        | [] => (skipped ++ taken.1, taken.2)
        | c :: rest =>
          if everywhere ∨ taken.2 = 0 then
            let (more, count) :=
              substituted pattern text everywhere fuel false (last.skip 1)
            (skipped ++ taken.1 ++ c :: more, count + taken.2)
          else (skipped ++ taken.1 ++ c :: rest, taken.2)
      else if everywhere then
        let (more, count) := substituted pattern text everywhere fuel true last
        (skipped ++ piece ++ more, count + 1)
      else (skipped ++ piece ++ last.rest, 1)

/-- A small letter for each capital one, or the other way round. -/
def withCase (upper : Bool) (chars : List Char) : List Char :=
  chars.map fun c => if c.toNat < 0x80 then (if upper then c.toUpper else c.toLower) else c

/-- A pattern that a text writes. -/
def patternOf (chars : List Char) : Act Pattern := do
  match readPattern chars with
  | .ok pattern => return pattern
  | .error fault =>
    failRunning
      s!"regular expression compile failed ({fault.message})\n{String.ofList (lowered chars)}"

/-- Values by a format, as a function or a statement prints them. -/
def printedBy (function : String) (printPartly : List Char → Act Unit) (values : List Value) :
    Act (List Char) := do
  let w ← get
  match values with
  | [] => return []
  | format :: values =>
    let format := w.text format
    let (text, fault) := formatted w.text (format.length + 1) 1 format values
    let call := s!"{function}(\"{String.ofList (lowered format)}\")"
    match fault with
    | none => return text
    | some .missing =>
      printPartly text
      failRunning s!"not enough arguments passed to {call}"
    | some (.improper number) =>
      printPartly text
      failRunning s!"improper conversion(number {number}) in {call}"

/-- The value of a function of numbers. -/
def numericFunction (function : Builtin) (x y : Float) : Float :=
  match function with
  | .sin => Float.sin x
  | .cos => Float.cos x
  | .atan2 => Float.atan2 x y
  | .exp => Float.exp x
  | .log => Float.log x
  | .sqrt => Float.sqrt x
  | _ => ((truncated? x).map Float.ofInt).getD x

/-! ### Expressions and statements -/

mutual

/-- The value of an expression. -/
def evaluate : (fuel : Nat) → Expr → Act Value
  | 0, _ => throw .exit
  | fuel + 1, expr => do
    match expr with
    | .number x => return .number x
    | .text chars => return .text chars
    | .pattern pattern =>
      let w ← get
      return truth (isMatch pattern (w.text w.record))
    | .cell cell => getCell fuel cell
    | .assign cell none value =>
      let value ← evaluate fuel value
      setCell fuel cell value
      return value
    | .assign cell (some operation) value =>
      -- the value first, then the cell it is combined with
      let y ← evaluate fuel value
      let x ← getCell fuel cell
      let result := Value.number (operation.apply x.toNumber y.toNumber)
      setCell fuel cell result
      return result
    | .step cell up before =>
      let x := (← getCell fuel cell).toNumber
      let y := if up then x + 1 else x - 1
      setCell fuel cell (.number y)
      return .number (if before then y else x)
    | .conditional condition first second =>
      if (← evaluate fuel condition).holds then evaluate fuel first else evaluate fuel second
    | .both first second =>
      if (← evaluate fuel first).holds then return truth (← evaluate fuel second).holds
      else return truth false
    | .either first second =>
      if (← evaluate fuel first).holds then return truth true
      else return truth (← evaluate fuel second).holds
    | .contains table subscript =>
      let key ← keyOf fuel subscript
      let w ← get
      -- to ask for an entry does not make it, but it may move it to the front
      let (value, entries) := (w.table table).use key
      if value.isSome then set (w.setTable table entries)
      return truth value.isSome
    | .matching negated text pattern =>
      let chars := (← get).text (← evaluate fuel text)
      let pattern ← patternFor fuel pattern
      return truth (isMatch pattern chars != negated)
    | .relation relation first second =>
      let x ← evaluate fuel first
      let y ← evaluate fuel second
      return truth (relation.holds (x.order (← get).convertFormat y))
    | .joined first second =>
      let x ← evaluate fuel first
      let x := (← get).text x
      let y ← evaluate fuel second
      return .text (x ++ (← get).text y)
    | .operation operation first second =>
      let x ← evaluate fuel first
      let y ← evaluate fuel second
      return .number (operation.apply x.toNumber y.toNumber)
    | .negated value => return truth (!(← evaluate fuel value).holds)
    | .signed minus value =>
      let x := (← evaluate fuel value).toNumber
      return .number (if minus then -x else x)
    | .call name arguments => callFunction fuel name arguments
    | .builtin function arguments => callBuiltin fuel function arguments
    | .nextRecord source target => readRecord fuel source target

/-- The key that a subscript names. -/
def keyOf : (fuel : Nat) → List Expr → Act (List Char)
  | 0, _ => throw .exit
  | fuel + 1, subscript => do
    let values ← evaluateAll fuel subscript
    let w ← get
    return (w.textOf "SUBSEP").intercalate (values.map w.text)

/-- The values of expressions. -/
def evaluateAll : (fuel : Nat) → List Expr → Act (List Value)
  | 0, _ => throw .exit
  | _, [] => return []
  | fuel + 1, first :: rest => do
    let value ← evaluate fuel first
    return value :: (← evaluateAll fuel rest)

/-- The pattern that an expression is or writes. -/
def patternFor : (fuel : Nat) → Expr → Act Pattern
  | 0, _ => throw .exit
  | fuel + 1, expr => do
    match expr with
    | .pattern pattern => return pattern
    | expr =>
      let value ← evaluate fuel expr
      patternOf ((← get).text value)

/-- The value that a cell has. -/
def getCell : (fuel : Nat) → Cell → Act Value
  | 0, _ => throw .exit
  | fuel + 1, cell => do
    match cell with
    | .scalar name => getScalar name
    | .field number => getField (← fieldNumber (← evaluate fuel number))
    | .element table subscript =>
      let key ← keyOf fuel subscript
      let w ← get
      let (value, entries) := (w.table table).use key
      set (w.setTable table (if value.isSome then entries else entries.put key .unset))
      return value.getD .unset

/-- Gives a cell a value. -/
def setCell : (fuel : Nat) → Cell → Value → Act Unit
  | 0, _, _ => throw .exit
  | fuel + 1, cell, value => do
    match cell with
    | .scalar name => setScalar name value
    | .field number =>
      let n ← fieldNumber (← evaluate fuel number)
      setField n value
    | .element table subscript =>
      let key ← keyOf fuel subscript
      modify fun w => w.setTable table ((w.table table).put key value)

/-- Calls a function of the program.  A variable that has no value yet may become a table there. -/
def callFunction : (fuel : Nat) → (name : String) → List Expr → Act Value
  | 0, _, _ => throw .exit
  | fuel + 1, name, arguments => do
    match (← get).functions.find? (·.name = name) with
    | none => return .unset
    | some function =>
      let slots ← argumentSlots fuel arguments
      let missing := List.replicate (function.parameters.length - slots.length)
        (Slot.mk .unset none)
      let w ← get
      set { w with locals := function.parameters.zip (slots ++ missing) }
      let result ← try
          executeAll fuel function.body
          pure Value.unset
        catch
          | .back value => pure value
          | stop => throw stop
      modify fun after => { after with locals := w.locals }
      return result

/-- The variables that a function begins with. -/
def argumentSlots : (fuel : Nat) → List Expr → Act (List Slot)
  | 0, _ => throw .exit
  | _, [] => return []
  | fuel + 1, first :: rest => do
    let slot ← match first with
      | .cell (.scalar name) =>
        let value ← getScalar name
        match value with
        | .unset =>
          modify fun w => (w.withTable name).2
          pure { (← get).slot name with value }
        | value => pure ⟨value, none⟩
      | first => pure ⟨← evaluate fuel first, none⟩
    return slot :: (← argumentSlots fuel rest)

/-- Calls a function that is always there. -/
def callBuiltin : (fuel : Nat) → Builtin → List Expr → Act Value
  | 0, _, _ => throw .exit
  | fuel + 1, function, arguments => do
    match function, arguments with
    | .length, [] =>
      let w ← get
      return .number (w.text w.record).length.toFloat
    | .length, .cell (.scalar name) :: _ =>
      let value ← getScalar name
      let w ← get
      match value with
      -- a name that has no value yet may be one of a table
      | .unset => return .number (w.table name).length.toFloat
      | value => return .number (w.text value).length.toFloat
    | .split, text :: .cell (.scalar table) :: more =>
      let chars := (← get).text (← evaluate fuel text)
      let separator ← match more with
        | [] => separatorOf ((← get).textOf "FS")
        | .pattern pattern :: _ => pure (Separator.pattern pattern)
        | expr :: _ =>
          let value ← evaluate fuel expr
          separatorOf ((← get).text value)
      let fields := fieldsOf separator chars
      let entries : Table := fields.zipIdx.map fun (field, i) =>
        ((toString (i + 1)).toList, Value.input field)
      -- the last field in front, as if the fields had been set one after the other
      modify fun w => w.setTable table entries.reverse
      return .number fields.length.toFloat
    | .sub, pattern :: text :: target => substitute fuel false pattern text target
    | .gsub, pattern :: text :: target => substitute fuel true pattern text target
    | .match', text :: pattern :: _ =>
      let chars := (← get).text (← evaluate fuel text)
      let pattern ← patternFor fuel pattern
      let (start, length) : Int × Int := match firstMatch? pattern ⟨[], chars, []⟩ with
        | some (first, last) =>
          (first.before.length + 1, (first.rest.length : Int) - last.rest.length)
        | none => (0, -1)
      setScalar "RSTART" (.number (Float.ofInt start))
      setScalar "RLENGTH" (.number (Float.ofInt length))
      return .number (Float.ofInt start)
    | .sprintf, values =>
      let values ← evaluateAll fuel values
      return .text (← printedBy "sprintf" (fun _ => return) values)
    | .srand, more =>
      let values ← evaluateAll fuel more
      let w ← get
      -- without a value the seed would be the time of day, which no run here depends on
      set { w with seed := (values.head?.map Value.toNumber).getD 0 }
      return .number w.seed
    | .fflush, _ =>
      modify World.flush
      return .number 0
    | function, arguments =>
      let values ← evaluateAll fuel arguments
      let w ← get
      let first := values.headD .unset
      let second := values.getD 1 .unset
      match function with
      | .length => return .number (w.text first).length.toFloat
      | .index => return .number (positionOf (w.text first) (w.text second)).toFloat
      | .substr =>
        let count := (values[2]?).map fun value => fittingInteger value.toNumber
        return .text (partOf (w.text first) (fittingInteger second.toNumber) count)
      | .tolower => return .text (withCase false (w.text first))
      | .toupper => return .text (withCase true (w.text first))
      | .system =>
        let (status, w) := w.runCommand (w.text first) none
        set w
        return .number status.toFloat
      | .close =>
        let status ← closeStream (w.text first)
        return .number ((status.map Nat.toFloat).getD (-1))
      | .rand =>
        let seed := remainder (w.seed * 16807 + 1) 2147483647
        set { w with seed }
        return .number (seed / 2147483647)
      | function => return .number (numericFunction function first.toNumber second.toNumber)

/-- Replaces matches in a cell, or in the record where none is named. -/
def substitute : (fuel : Nat) → (everywhere : Bool) → (pattern text : Expr) → List Expr → Act Value
  | 0, _, _, _, _ => throw .exit
  | fuel + 1, everywhere, pattern, text, target => do
    let pattern ← patternFor fuel pattern
    let text ← evaluate fuel text
    let cell : Option Cell := match target with
      | [] => some (.field (.number 0))
      | .cell cell :: _ => some cell
      | _ => none
    let value ← match target with
      | expr :: _ => evaluate fuel expr
      | [] => getField 0
    let w ← get
    let chars := w.text value
    let (changed, count) :=
      substituted pattern (w.text text) everywhere (chars.length + 2) false ⟨[], chars, []⟩
    if 0 < count then
      match cell with
      | some cell => setCell fuel cell (.text changed)
      | none => pure ()
    return .number count.toFloat

/-- Reads the next record into a cell, or as the record itself: one if there is one, zero at the
end, and less where there is no such file. -/
def readRecord : (fuel : Nat) → LineSource → Option Cell → Act Value
  | 0, _, _ => throw .exit
  | fuel + 1, source, target => do
    let store (record : List Char) : Act Unit := do
      match target with
      | some cell => setCell fuel cell (.input record)
      | none => setRecord (.input record)
    match source with
    | .input =>
      match ← nextInput inputSteps with
      | none => return .number 0
      | some record =>
        -- only records of the main input are counted
        increment "NR"
        increment "FNR"
        store record
        return .number 1
    | .file path =>
      let name := (← get).text (← evaluate fuel path)
      match ← nextFrom name false with
      | none => return .number (-1)
      | some none => return .number 0
      | some (some record) =>
        store record
        return .number 1
    | .command text =>
      let name := (← get).text (← evaluate fuel text)
      match ← nextFrom name true with
      | some (some record) =>
        store record
        return .number 1
      | _ => return .number 0

/-- Does what statements say, one after the other. -/
def executeAll : (fuel : Nat) → List Statement → Act Unit
  | 0, _ => throw .exit
  | _, [] => return
  | fuel + 1, first :: rest => do
    execute fuel first
    executeAll fuel rest

/-- Where something is printed: a name, whether it is a command, and whether it is added to. -/
def targetFor : (fuel : Nat) → Output → Act (Option (List Char × Bool × Bool))
  | 0, _ => throw .exit
  | fuel + 1, output => do
    match output with
    | .standard => return none
    | .file append path =>
      let value ← evaluate fuel path
      return some ((← get).text value, false, append)
    | .command text =>
      let value ← evaluate fuel text
      return some ((← get).text value, true, false)

/-- Does what a statement says. -/
def execute : (fuel : Nat) → Statement → Act Unit
  | 0, _ => throw .exit
  | fuel + 1, statement => do
    match statement with
    | .empty => return
    | .value value =>
      let _ ← evaluate fuel value
    | .print values output =>
      let values ← evaluateAll fuel values
      let w ← get
      let values := if values.isEmpty then [w.record] else values
      -- numbers are printed by a format of their own, not the one for conversions
      let format := match w.value "OFMT" with
        | .text chars | .input chars => chars
        | _ => "%.6g".toList
      let line := (w.textOf "OFS").intercalate (values.map (Value.toText format)) ++ w.textOf "ORS"
      let target ← targetFor fuel output
      emit target line
    | .printf values output =>
      let values ← evaluateAll fuel values
      let target ← targetFor fuel output
      emit target (← printedBy "printf" (emit target) values)
    | .block statements => executeAll fuel statements
    | .choice condition first second =>
      if (← evaluate fuel condition).holds then execute fuel first
      else
        match second with
        | some second => execute fuel second
        | none => return
    | .loop bodyFirst condition body =>
      runLoop fuel bodyFirst (some condition) none body
    | .count start condition step body =>
      match start with
      | some start =>
        let _ ← evaluate fuel start
      | none => pure ()
      runLoop fuel false condition step body
    | .each name table body =>
      -- the subscripts are fixed before the first round, whatever the body does to the table
      let keys := (← get).table table |>.visited
      runEach fuel name body keys
    | .next => throw .next
    | .nextFile => throw .nextFile
    | .exit status =>
      match status with
      | some status =>
        let value ← evaluate fuel status
        modify fun w => { w with status := (fittingInteger value.toNumber % 256).toNat }
      | none => pure ()
      throw .exit
    | .leave => throw .leave
    | .again => throw .again
    | .return value =>
      match value with
      | some value => throw (.back (← evaluate fuel value))
      | none => throw (.back .unset)
    | .delete table subscript =>
      if subscript.isEmpty then modify fun w => w.setTable table []
      else
        let key ← keyOf fuel subscript
        modify fun w => w.setTable table ((w.table table).filter (·.1 ≠ key))

/-- Runs a loop as long as its condition holds; `true` from the first round on where the body comes
first. -/
def runLoop : (fuel : Nat) → (bodyFirst : Bool) → (condition step : Option Expr) → Statement →
    Act Unit
  | 0, _, _, _, _ => throw .exit
  | fuel + 1, bodyFirst, condition, step, body => fun w =>
    let test : Act Bool :=
      match bodyFirst, condition with
      | false, some condition => return (← evaluate fuel condition).holds
      | _, _ => return true
    match test w with
    | (.error stop, w) => (.error stop, w)
    | (.ok false, w) => (.ok (), w)
    | (.ok true, w) =>
      let advance (w : World) : Except Stop Value × World := match step with
        | some step => evaluate fuel step w
        | none => (.ok .unset, w)
      match execute fuel body w with
      | (.error .leave, w) => (.ok (), w)
      | (.ok _, w) | (.error .again, w) =>
        match advance w with
        | (.error stop, w) => (.error stop, w)
        | (.ok _, w) => runLoop fuel false condition step body w
      | (.error stop, w) => (.error stop, w)

/-- Runs the body of a loop for each key. -/
def runEach : (fuel : Nat) → (name : String) → Statement → List (List Char) → Act Unit
  | 0, _, _, _ => throw .exit
  | _, _, _, [] => return
  | fuel + 1, name, body, key :: rest => fun w =>
    match (do setScalar name (.text key); execute fuel body : Act Unit) w with
    | (.error .leave, w) => (.ok (), w)
    | (.ok _, w) | (.error .again, w) => runEach fuel name body rest w
    | (.error stop, w) => (.error stop, w)

end

/-! ### Rules -/

/-- How deep evaluation may go, loops included. -/
def depth : Nat := 1000000

/-- Does what a rule says; without a body it prints the record. -/
def runBody (rule : Rule) : Act Unit :=
  executeAll depth (rule.body.getD [.print [] .standard])

/-- Whether a rule applies to the record; the number tells its range from those of others. -/
def applies (number : Nat) (condition : Condition) : Act Bool := do
  match condition with
  | .always => return true
  | .holds condition => return (← evaluate depth condition).holds
  | .range first last =>
    let isOpen := (← get).openRanges.contains number
    if isOpen || (← evaluate depth first).holds then
      let ends := (← evaluate depth last).holds
      modify fun w =>
        let others := w.openRanges.filter (· ≠ number)
        { w with openRanges := if ends then others else number :: others }
      return true
    else return false
  | _ => return false

/-- Runs the rules for one record. -/
def runRules (rules : List (Rule × Nat)) : Act Unit :=
  rules.forM fun (rule, number) => do
    if ← applies number rule.condition then runBody rule

/-- Runs the rules for each record that is left. -/
def runRecords (rules : List (Rule × Nat)) : (fuel : Nat) → Act Unit
  | 0 => return
  | fuel + 1 => fun w =>
    match nextInput inputSteps w with
    | (.error stop, w) => (.error stop, w)
    | (.ok none, w) => (.ok (), w)
    | (.ok (some record), w) =>
      let round : Act Unit := do
        increment "NR"
        increment "FNR"
        setRecord (.input record)
        runRules rules
      match round w with
      | (.ok _, w) | (.error .next, w) => runRecords rules fuel w
      | (.error .nextFile, w) => runRecords rules fuel { w with current := none }
      | (.error stop, w) => (.error stop, w)

/-- Runs the rules for the start or the end. -/
def runOnce (program : Program) (atStart : Bool) : Act Unit :=
  program.rules.forM fun rule =>
    match rule.condition, atStart with
    | .start, true | .finish, false => runBody rule
    | _, _ => return

/-- Runs a program: the rules for the start, those for each record if there are any or rules for the
end, and these.  An exit on the way leads to the rules for the end. -/
def runProgram (program : Program) : Act Unit := do
  let isStart (rule : Rule) : Bool := match rule.condition with
    | .start => true
    | _ => false
  let isFinish (rule : Rule) : Bool := match rule.condition with
    | .finish => true
    | _ => false
  let rules := program.rules.zipIdx.filter fun (rule, _) => !isStart rule && !isFinish rule
  let untilExit (action : Act Unit) : Act Bool :=
    try
      action
      return true
    catch
      | .failed text => throw (.failed text)
      | _ => return false
  if ← untilExit (runOnce program true) then
    if ¬ rules.isEmpty ∨ program.rules.any isFinish then
      let _ ← untilExit (runRecords rules depth)
  let _ ← untilExit (runOnce program false)

/-! ### The tool -/

/-- What a call asks for: separators, settings and texts of programs, and the words behind them. -/
structure Call where
  separator : Option String
  settings : List (String × List Char)
  files : List String
  words : List String

/-- What is wrong with a call. -/
inductive CallFault where
  | unknownOption (word : String)
  | missing (letter : Char)
  | improperSetting (word : String)

/-- The wording of a fault. -/
def CallFault.message : CallFault → String
  | .unknownOption word => s!"not an option: {word}"
  | .missing letter => s!"option -{letter} lacks argument"
  | .improperSetting word => s!"improper assignment: -v {word}"

/-- Reads the words of a call. -/
def readCall : (fuel : Nat) → Call → List String → Except CallFault Call
  | 0, call, words => .ok { call with words }
  | fuel + 1, call, words =>
    let withValue (letter : Char) (value : String) (rest : List String) : Except CallFault Call :=
      match letter with
      | 'F' => readCall fuel { call with separator := some value } rest
      | 'f' => readCall fuel { call with files := call.files ++ [value] } rest
      | 'v' =>
        match settingName? value.toList with
        | some setting =>
          readCall fuel { call with settings := call.settings ++ [setting] } rest
        | none => .error (.improperSetting value)
      | _ => readCall fuel call rest
    match words with
    | "--" :: rest => .ok { call with words := rest }
    | word :: rest =>
      match word.toList with
      | '-' :: letter :: more =>
        if letter ∉ ['F', 'f', 'v', 'W'] then .error (.unknownOption word)
        else
          -- the value is the rest of the word, or the next word
          match more, rest with
          | [], [] => .error (.missing letter)
          | [], value :: rest => withValue letter value rest
          | more, rest => withValue letter (String.ofList more) rest
      | _ => .ok { call with words }
    | [] => .ok call

/-- Sets variables to texts from the call, with their escapes replaced. -/
def World.withSettings (w : World) (settings : List (String × List Char)) : World :=
  settings.foldl (fun w (name, value) =>
    w.setValue name (.input (withEscapes (raised value)))) w

/-- What a program begins with. -/
def World.initial (program : Program) (command : List Char → Run Unit) (call : Call)
    (arguments : List String) (shell : State) : World :=
  let number (x : Float) : Value := .number x
  let text (word : String) : Value := .text word.toList
  let defaults : List (String × Value) :=
    [("NR", number 0), ("FNR", number 0), ("FS", text " "), ("OFS", text " "), ("ORS", text "\n"),
      ("RS", text "\n"), ("SUBSEP", text "\x1c"), ("CONVFMT", text "%.6g"),
      ("OFMT", text "%.6g"), ("RSTART", number 0), ("RLENGTH", number (-1)),
      ("FILENAME", text ""), ("ARGC", number (arguments.length + 1).toFloat)]
  let listed : Table := ("awk" :: arguments).zipIdx.map fun (word, i) =>
    ((toString i).toList, Value.input (raised word.toList))
  let environment : Table := shell.bindings.filterMap fun (name, value) =>
    if shell.exported.contains name then
      some (raised name.toList, Value.input (raised value.toList)) else none
  let w : World :=
    { functions := program.functions
      command
      globals := defaults.map (fun (name, value) => (name, Slot.mk value none)) ++
        [("ARGV", ⟨.unset, some 0⟩), ("ENVIRON", ⟨.unset, some 1⟩)]
      locals := []
      tables := #[listed, environment]
      record := .input []
      fields := []
      current := none
      nextArgument := 1
      hadFile := false
      sources := []
      sinks := []
      printed := []
      openRanges := []
      status := 0
      seed := 1
      shell }
  w.withSettings ((call.separator.map fun word => ("FS", word.toList)).toList ++ call.settings)

end Awk

/-- Runs a program for each record of its files or its input. -/
def awk (command : List Char → Run Unit) (words : List String) : Run Unit := do
  let complain (status : Nat) (texts : List (List Char)) : Run Unit := do
    texts.forM fun text => print 2 ("awk: ".toList ++ text ++ ['\n'])
    setStatus status
  let s ← get
  match Awk.readCall (words.length + 1) ⟨none, [], [], []⟩ words with
  | .error fault => complain 2 [fault.message.toList]
  | .ok call =>
    -- a program from files is read as a whole, so one that is missing stops everything
    let missing := call.files.find? fun path => path ≠ "-" ∧ (s.opened? path).isNone
    let program := if call.files.isEmpty then (call.words.head?.map String.toList) else
      some (['\n'].intercalate (call.files.filterMap fun path =>
        if path = "-" then some s.input else s.opened? path))
    let arguments := if call.files.isEmpty then call.words.drop 1 else call.words
    let front := match call.files.getLast? with
      | some path => path ++ ": "
      | none => ""
    match missing, program with
    | some path, _ => complain 2 [s!"cannot open \"{path}\" ({noSuchFile})".toList]
    | none, none => setStatus 0
    | none, some text =>
      match Awk.readProgram text with
      | .error faults => complain 2 (faults.map fun fault => (front ++ fault).toList)
      | .ok program =>
        let input := if call.files.contains "-" then [] else s.input
        let w := Awk.World.initial program command call arguments { s with input }
        let (result, w) := (Awk.runProgram program).run.run w
        set w.shell
        let status ← match result with
          | .error (.failed text) =>
            complain 2 [text]
            pure 2
          | _ => pure w.status
        let w := { w with shell := ← get }.closeAll
        set { w.shell with status }

end Shell

end TreeOutline
