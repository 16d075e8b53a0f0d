import TreeOutline.Shell.Awk.Token

namespace TreeOutline

/-!
# Reading programs for records

A program is read token by token.  Behind a fault reading goes on with the next statement, or
outside of a block with the next block, so that several complaints can come of one program.

* `Shell.Awk.Reader` — what is known while a program is read; `Shell.Awk.Reading` — its actions.
* `Shell.Awk.readProgram` — a program from its text, or the complaints about it.
-/

namespace Shell

namespace Awk

/-! ### What is known -/

/-- What is known while a program is read. -/
structure Reader where
  tokens : List (Token × Nat)
  /-- How many parentheses and braces are open. -/
  parentheses : Nat
  braces : Nat
  /-- Whether a `>` or a bar tells where something is printed. -/
  printing : Bool
  /-- How many tokens have been read since the last fault; one too close to it is not told. -/
  sinceFault : Nat
  /-- The complaints, latest first. -/
  complaints : List String
  /-- Whether reading has ended early. -/
  broken : Bool
  loops : Nat
  inFunction : Bool
  /-- Whether the rule that is read is one for records. -/
  forRecords : Bool
  /-- The functions that are called, with the number of their arguments and the line. -/
  calls : List (String × Nat × Nat)

/-- An action of reading; what stops it is a fault. -/
abbrev Reading := ExceptT Unit (StateM Reader)

namespace Reader

/-- Notes a complaint; with the fifth one reading ends. -/
def complain (r : Reader) (text : String) : Reader :=
  { r with complaints := text :: r.complaints, broken := r.broken || 4 ≤ r.complaints.length }

/-- Passes over what only has to be complained about in front of the next token. -/
def settle : (fuel : Nat) → Reader → Reader
  | 0, r => r
  | fuel + 1, r =>
    match r.tokens with
    | (.complaint text, _) :: rest => settle fuel { r.complain text with tokens := rest }
    | (.broken text, line) :: _ =>
      { r.complain text with tokens := [(.finish, line)], broken := true }
    | (.mark ")", line) :: rest =>
      if r.parentheses = 0 then
        settle fuel { r.complain s!"line {line}: extra ')'" with tokens := rest }
      else r
    | _ => r

/-- The next token. -/
def next (r : Reader) : Token := (r.tokens.head?.map (·.1)).getD .finish

/-- The line of the next token. -/
def line (r : Reader) : Nat := (r.tokens.head?.map (·.2)).getD 1

/-- Passes over the next token without reading it. -/
def drop (r : Reader) : Reader :=
  settle r.tokens.length { r with tokens := r.tokens.drop 1 }

/-- Reads the next token. -/
def advance (r : Reader) : Reader :=
  let r := { r with sinceFault := r.sinceFault + 1 }
  match r.next with
  | .finish => r
  | .mark "(" => { r with parentheses := r.parentheses + 1 }.drop
  | .mark ")" => { r with parentheses := r.parentheses - 1 }.drop
  | .mark "\x7b" => { r with braces := r.braces + 1 }.drop
  | .mark "\x7d" => { r with braces := r.braces - 1 }.drop
  | _ => r.drop

/-- What is passed over only adds complaints. -/
theorem complaints_settle (fuel : Nat) (r : Reader) :
    r.complaints <:+ (r.settle fuel).complaints := by
  fun_induction settle fuel r with
  | case1 r => exact List.suffix_rfl
  | case2 fuel r text line rest htokens ih => exact (List.suffix_cons _ _).trans ih
  | case3 fuel r text line rest htokens => exact List.suffix_cons _ _
  | case4 fuel r line rest htokens hclosed ih => exact (List.suffix_cons _ _).trans ih
  | case5 fuel r line rest htokens hopen => exact List.suffix_rfl
  | case6 fuel r => exact List.suffix_rfl

/-- So does passing over a token, whatever else has been noted before. -/
theorem complaints_drop {r noted : Reader} (h : noted.complaints = r.complaints) :
    r.complaints <:+ noted.drop.complaints :=
  h ▸ complaints_settle noted.tokens.length { noted with tokens := noted.tokens.drop 1 }

/-- **No complaint is lost** when a token is read. -/
theorem complaints_advance (r : Reader) : r.complaints <:+ r.advance.complaints := by
  simp only [advance]
  split
  · exact List.suffix_rfl
  all_goals exact complaints_drop rfl

/-- What is said of a token that cannot stand where it does. -/
def faultText (r : Reader) : String :=
  let closes : Bool := match r.next with
    | .newline | .semicolon | .implied | .finish | .mark "\x7d" => true
    | _ => false
  let ends : Bool := match r.next with
    | .finish => true
    | _ => false
  match r.next, r.next.shown with
  | .unexpected c, _ => s!"{r.line}: unexpected character '{c}'"
  | _, some text =>
    if closes ∧ 0 < r.parentheses then s!"line {r.line}: missing ) near {text}"
    else if ends ∧ 0 < r.braces then s!"line {r.line}: missing \x7d near {text}"
    else s!"line {r.line}: syntax error at or near {text}"
  | _, none => s!"line {r.line}: syntax error"

end Reader

/-! ### Single tokens -/

/-- The next token. -/
def peek : Reading Token := return (← get).next

/-- Reads the next token. -/
def advance : Reading Unit := modify Reader.advance

/-- Complains and reads on. -/
def complainAt (text : String) : Reading Unit :=
  modify fun r => r.complain s!"line {r.line}: {text}"

/-- Stops at a token that cannot stand where it does. -/
def unexpected {α : Type} : Reading α := do
  let r ← get
  let told := 3 ≤ r.sinceFault ∧ ¬ r.broken
  set { (if told then r.complain r.faultText else r) with sinceFault := 0, printing := false }
  throw ()

/-- Stops reading for good. -/
def breakOff {α : Type} (text : String) : Reading α := do
  modify fun r => { r.complain text with broken := true }
  throw ()

/-- Whether the next token is a mark. -/
def atMark (text : String) : Reading Bool := do
  match ← peek with
  | .mark word => return word = text
  | _ => return false

/-- Whether the next token is a keyword. -/
def atKeyword (text : String) : Reading Bool := do
  match ← peek with
  | .keyword word => return word = text
  | _ => return false

/-- Reads a mark that has to stand here. -/
def expect (text : String) : Reading Unit := do
  if ← atMark text then advance else unexpected

/-- Reads a name that has to stand here. -/
def expectName : Reading String := do
  match ← peek with
  | .name text =>
    advance
    return text
  | _ => unexpected

/-- Whether the next token ends a statement. -/
def atSeparator : Reading Bool := do
  match ← peek with
  | .newline | .semicolon | .implied => return true
  | _ => return false

/-- Reads the end of a statement. -/
def expectSeparator : Reading Unit := do
  if ← atSeparator then
    modify fun r => { r with printing := false }
    advance
  else unexpected

/-- Passes over ends of lines. -/
def skipNewlines : Reading Unit := modify fun r => go r.tokens.length r
where
  /-- Passes over up to `fuel` of them. -/
  go : (fuel : Nat) → Reader → Reader
    | 0, r => r
    | fuel + 1, r =>
      match r.next with
      | .newline => go fuel r.drop
      | _ => r

/-- Whether a `>` or a bar tells here where something is printed. -/
def atOutput : Reading Bool := do
  let r ← get
  match r.next with
  | .mark word => return r.printing && r.parentheses == 0 && [">", ">>", "|"].contains word
  | _ => return false

/-- The operation of an assignment. -/
def assignment? : Token → Option (Option Operation)
  | .mark "=" => some none
  | .mark "+=" => some (some .plus)
  | .mark "-=" => some (some .minus)
  | .mark "*=" => some (some .times)
  | .mark "/=" => some (some .over)
  | .mark "%=" => some (some .modulo)
  | .mark "^=" => some (some .power)
  | _ => none

/-- The comparison of a mark. -/
def relation? : Token → Option Relation
  | .mark "<" => some .less
  | .mark "<=" => some .lessOrEqual
  | .mark "==" => some .equal
  | .mark "!=" => some .different
  | .mark ">" => some .greater
  | .mark ">=" => some .greaterOrEqual
  | _ => none

/-- The operation of a mark with the level on which it binds. -/
def operation? : Token → Option (Nat × Operation)
  | .mark "+" => some (7, .plus)
  | .mark "-" => some (7, .minus)
  | .mark "*" => some (8, .times)
  | .mark "/" => some (8, .over)
  | .mark "%" => some (8, .modulo)
  | _ => none

/-- Whether a token begins an operand that is joined to the one in front of it. -/
def startsOperand : Token → Bool
  | .number _ _ | .text _ | .pattern _ | .name _ | .call _ | .builtin _ => true
  | .mark word => word ∈ ["$", "!", "(", "++", "--"]
  | .keyword word => word = "getline"
  | _ => false

/-- How many arguments a function takes, at least and at most. -/
def Builtin.arity : Builtin → Nat × Option Nat
  | .length | .srand | .fflush => (0, some 1)
  | .substr | .split | .sub | .gsub => (2, some 3)
  | .index | .match' | .atan2 => (2, some 2)
  | .sprintf => (1, none)
  | .rand => (0, some 0)
  | _ => (1, some 1)

/-- The tokens behind the parenthesis that closes the first one. -/
def behindParentheses : (depth : Nat) → List (Token × Nat) → List (Token × Nat)
  | _, [] => []
  | depth, (.mark "(", _) :: rest => behindParentheses (depth + 1) rest
  | depth, (.mark ")", _) :: rest => if depth ≤ 1 then rest else behindParentheses (depth - 1) rest
  | depth, _ :: rest => behindParentheses depth rest

/-- What stands behind parentheses ends the tokens. -/
theorem behindParentheses_suffix (depth : Nat) (tokens : List (Token × Nat)) :
    behindParentheses depth tokens <:+ tokens := by
  fun_induction behindParentheses depth tokens with
  | case1 depth => exact List.suffix_rfl
  | case2 depth line rest ih => exact ih.trans (List.suffix_cons _ _)
  | case3 depth line rest hdepth => exact List.suffix_cons _ _
  | case4 depth line rest hdepth ih => exact ih.trans (List.suffix_cons _ _)
  | case5 depth token rest hopen hclose ih => exact ih.trans (List.suffix_cons _ _)

/-- Whether parentheses hold all that is printed. -/
def holdsAll (tokens : List (Token × Nat)) : Bool :=
  match tokens with
  | (.mark "(", _) :: _ =>
    match behindParentheses 0 tokens with
    | [] => true
    | (.newline, _) :: _ | (.semicolon, _) :: _ | (.implied, _) :: _ | (.finish, _) :: _ => true
    | (.mark word, _) :: _ => word ∈ [">", ">>", "|"]
    | _ => false
  | _ => false

/-- The pattern that is written on a line. -/
def patternFrom (line : Nat) (chars : List Char) : Reading Expr := do
  match readPattern chars with
  | .ok pattern => return .pattern pattern
  | .error fault =>
    breakOff (s!"line {line}: regular expression compile failed ({fault.message})\n" ++
      String.ofList (lowered chars))

/-- An expression where a pattern is wanted: a text that is written out is read as one. -/
def asPattern (expr : Expr) : Reading Expr := do
  match expr with
  | .text chars => patternFrom (← get).line chars
  | expr => return expr

/-! ### Expressions -/

mutual

/-- An expression. -/
def readExpr : (fuel : Nat) → Reading Expr
  | 0 => unexpected
  | fuel + 1 => do
    let condition ← readLevel fuel 1
    if ← atMark "?" then
      advance
      let first ← readExpr fuel
      expect ":"
      let second ← readExpr fuel
      return .conditional condition first second
    else return condition

/-- An expression with operators of a level or those that bind more tightly: `||`, `&&`, `in`,
matches, comparisons, joined texts, sums, products. -/
def readLevel : (fuel : Nat) → (level : Nat) → Reading Expr
  | 0, _ => unexpected
  | fuel + 1, level => do
    if 9 ≤ level then readSigned fuel
    else
      let first ← readLevel fuel (level + 1)
      let first ← if level = 5 then readAssignment fuel first else pure first
      readFurther fuel level first

/-- An assignment, if what has been read can be given a value. -/
def readAssignment : (fuel : Nat) → Expr → Reading Expr
  | 0, _ => unexpected
  | fuel + 1, first => do
    match first, assignment? (← peek) with
    | .cell cell, some operation =>
      advance
      return .assign cell operation (← readExpr fuel)
    | _, _ => return first

/-- Operators of a level behind a first operand. -/
def readFurther : (fuel : Nat) → (level : Nat) → Expr → Reading Expr
  | 0, _, _ => unexpected
  | fuel + 1, level, first => do
    let token ← peek
    match level with
    | 1 =>
      if ← atMark "||" then
        advance
        -- the right side binds tighter, so what follows groups to the left
        let second ← readLevel fuel 2
        readFurther fuel 1 (.either first second)
      else return first
    | 2 =>
      if ← atMark "&&" then
        advance
        let second ← readLevel fuel 3
        readFurther fuel 2 (.both first second)
      else return first
    | 3 =>
      if ← atKeyword "in" then
        advance
        readFurther fuel 3 (.contains (← expectName) [first])
      else return first
    | 4 =>
      if (← atMark "~") || (← atMark "!~") then
        let negated ← atMark "!~"
        advance
        let second ← asPattern (← readLevel fuel 5)
        readFurther fuel 4 (.matching negated first second)
      else return first
    | 5 =>
      match relation? token with
      | none => return first
      | some relation =>
        -- behind what is printed this sign leads to a file
        if ← atOutput then return first
        else
          advance
          let second ← readLevel fuel 6
          let second ← readAssignment fuel second
          readFurther fuel 5 (.relation relation first second)
    | 6 =>
      if startsOperand token then
        let second ← readLevel fuel 7
        readFurther fuel 6 (.joined first second)
      else return first
    | level =>
      match operation? token with
      | none => return first
      | some (bound, operation) =>
        if bound ≠ level then return first
        else
          advance
          let second ← readLevel fuel (level + 1)
          readFurther fuel level (.operation operation first second)

/-- An operand behind its signs, with commands whose records it names. -/
def readSigned : (fuel : Nat) → Reading Expr
  | 0 => unexpected
  | fuel + 1 => do
    match ← peek with
    | .mark "!" =>
      advance
      return .negated (← readSigned fuel)
    | .mark "-" =>
      advance
      return .signed true (← readSigned fuel)
    | .mark "+" =>
      advance
      return .signed false (← readSigned fuel)
    | _ =>
      let value ← readPower fuel
      readFromCommand fuel value

/-- Records of the command that a value names. -/
def readFromCommand : (fuel : Nat) → Expr → Reading Expr
  | 0, _ => unexpected
  | fuel + 1, value => do
    let r ← get
    match r.tokens, ← atOutput with
    | (.mark "|", _) :: (.keyword "getline", _) :: _, false =>
      advance
      advance
      let target ← readTarget fuel
      readFromCommand fuel (.nextRecord (.command value) target)
    | _, _ => return value

/-- What a record is read into, if it is named. -/
def readTarget : (fuel : Nat) → Reading (Option Cell)
  | 0 => unexpected
  | fuel + 1 => do
    match ← peek with
    | .name _ | .mark "$" => return some (← readCell fuel)
    | _ => return none

/-- An operand and its power. -/
def readPower : (fuel : Nat) → Reading Expr
  | 0 => unexpected
  | fuel + 1 => do
    let base ← readStepped fuel
    if ← atMark "^" then
      advance
      let exponent ← match ← peek with
        | .mark "-" =>
          advance
          pure (Expr.signed true (← readPower fuel))
        | .mark "+" =>
          advance
          pure (Expr.signed false (← readPower fuel))
        | .mark "!" =>
          advance
          pure (Expr.negated (← readPower fuel))
        | _ => readPower fuel
      return .operation .power base exponent
    else return base

/-- An operand, with a step behind it if it can be given a value. -/
def readStepped : (fuel : Nat) → Reading Expr
  | 0 => unexpected
  | fuel + 1 => do
    let operand ← readOperand fuel
    match operand, ← peek with
    | .cell cell, .mark "++" =>
      advance
      return .step cell true false
    | .cell cell, .mark "--" =>
      advance
      return .step cell false false
    | operand, _ => return operand

/-- What can be given a value. -/
def readCell : (fuel : Nat) → Reading Cell
  | 0 => unexpected
  | fuel + 1 => do
    match ← peek with
    | .name text =>
      advance
      if ← atMark "[" then
        advance
        let subscript ← readList fuel
        expect "]"
        return .element text subscript
      else return .scalar text
    | .mark "$" =>
      advance
      match ← peek with
      | .mark word =>
        if word ∈ ["++", "--"] then
          advance
          return .field (.step (← readCell fuel) (word = "++") true)
        else if word ∈ ["-", "+", "!"] then return .field (← readSigned fuel)
        else return .field (← readOperand fuel)
      | _ => return .field (← readOperand fuel)
    | _ => unexpected

/-- Expressions between commas. -/
def readList : (fuel : Nat) → Reading (List Expr)
  | 0 => unexpected
  | fuel + 1 => do
    let first ← readExpr fuel
    if ← atMark "," then
      advance
      return first :: (← readList fuel)
    else return [first]

/-- Arguments in parentheses. -/
def readArguments : (fuel : Nat) → Reading (List Expr)
  | 0 => unexpected
  | fuel + 1 => do
    expect "("
    if ← atMark ")" then
      advance
      return []
    else
      let arguments ← readList fuel
      expect ")"
      return arguments

/-- An operand. -/
def readOperand : (fuel : Nat) → Reading Expr
  | 0 => unexpected
  | fuel + 1 => do
    let r ← get
    match r.next with
    | .number x _ =>
      advance
      return .number x
    | .text chars =>
      advance
      return .text chars
    | .pattern chars =>
      advance
      patternFrom r.line chars
    | .name _ | .mark "$" => return .cell (← readCell fuel)
    | .call name =>
      advance
      let arguments ← readArguments fuel
      modify fun r' => { r' with calls := (name, arguments.length, r.line) :: r'.calls }
      return .call name arguments
    | .builtin function =>
      advance
      -- only the length needs no brackets; it is then the one of the record
      let bare : Bool := match function, (← peek) with
        | .length, .mark "(" => false
        | .length, _ => true
        | _, _ => false
      let arguments ← if bare then pure [] else readArguments fuel
      let (least, most) := function.arity
      if arguments.length < least ∨ most.any (· < arguments.length) then
        complainAt ("wrong number of arguments in call to " ++ (r.next.shown).getD "")
      match function, arguments with
      | .sub, first :: rest | .gsub, first :: rest =>
        return .builtin function ((← asPattern first) :: rest)
      | .match', first :: second :: rest =>
        return .builtin function (first :: (← asPattern second) :: rest)
      | _, _ => return .builtin function arguments
    | .mark "(" =>
      advance
      let values ← readList fuel
      expect ")"
      -- several values in brackets are a subscript, and nothing else
      match values, ← atKeyword "in" with
      | [value], false => return value
      | values, true =>
        advance
        return .contains (← expectName) values
      | _, false => unexpected
    | .mark "++" =>
      advance
      return .step (← readCell fuel) true true
    | .mark "--" =>
      advance
      return .step (← readCell fuel) false true
    | .keyword "getline" =>
      advance
      let target ← readTarget fuel
      if ← atMark "<" then
        advance
        return .nextRecord (.file (← readPower fuel)) target
      else return .nextRecord .input target
    | _ => unexpected

end

/-! ### Statements -/

/-- What is printed. -/
def readPrinted (fuel : Nat) : Reading (List Expr) := do
  let r ← get
  if (← atSeparator) || (← atOutput) then return []
  else if holdsAll r.tokens then readArguments fuel
  else readList fuel

/-- Where it is printed. -/
def readOutput (fuel : Nat) : Reading Output := do
  let r ← get
  if ← atOutput then
    modify fun r => { r with printing := false }
    advance
    let value ← readExpr fuel
    match r.next with
    | .mark ">" => return .file false value
    | .mark ">>" => return .file true value
    | _ => return .command value
  else return .standard

/-- The part of a loop's head up to a separator, which may be left out. -/
def readPart (fuel : Nat) (ends : Reading Bool) : Reading (Option Expr) := do
  if ← ends then return none else return some (← readExpr fuel)

/-- The words that statements begin with. -/
def statementWords : List String :=
  ["if", "while", "do", "for", "print", "printf", "next", "nextfile", "exit", "return", "break",
    "continue", "delete"]

/-- Reads a semicolon that has to stand here. -/
def expectSemicolon : Reading Unit := do
  match ← peek with
  | .semicolon => advance
  | _ => unexpected

/-- Goes on behind the next end of a statement. -/
def recover : (fuel : Nat) → Reading Unit
  | 0 => throw ()
  | fuel + 1 => do
    let r ← get
    if r.broken then throw ()
    match r.next with
    | .finish => throw ()
    | .newline | .semicolon | .implied =>
      set { r with parentheses := 0, printing := false }
      advance
      modify fun r => { r with sinceFault := 3 }
    | _ =>
      set { r with parentheses := r.parentheses + 1 }.drop
      modify fun r' => { r' with parentheses := r.parentheses }
      recover fuel

mutual

/-- A statement.  Behind a fault in it reading goes on with what follows its end. -/
def readStatement : (fuel : Nat) → Reading Statement
  | 0 => unexpected
  | fuel + 1 =>
    try readSound fuel
    catch _ => do
      recover fuel
      return .empty

/-- A statement without a fault. -/
def readSound : (fuel : Nat) → Reading Statement
  | 0 => unexpected
  | fuel + 1 => do
    let r ← get
    match r.next with
    | .newline | .semicolon | .implied =>
      advance
      return .empty
    | .mark "\x7b" => return .block (← readBlock fuel)
    | .keyword word =>
      if word ∈ statementWords then
        advance
        readKeyword fuel word
      else readSimple fuel
    | _ => readSimple fuel

/-- An expression whose value does not matter. -/
def readSimple : (fuel : Nat) → Reading Statement
  | 0 => unexpected
  | fuel + 1 => do
    let value ← readExpr fuel
    expectSeparator
    return .value value

/-- The condition of a statement and the statement behind it. -/
def readGuarded : (fuel : Nat) → Reading (Expr × Statement)
  | 0 => unexpected
  | fuel + 1 => do
    expect "("
    let condition ← readExpr fuel
    expect ")"
    skipNewlines
    return (condition, ← readStatement fuel)

/-- The body of a loop. -/
def readLooped : (fuel : Nat) → Reading Statement
  | 0 => unexpected
  | fuel + 1 => do
    skipNewlines
    modify fun r => { r with loops := r.loops + 1 }
    let body ← readStatement fuel
    modify fun r => { r with loops := r.loops - 1 }
    return body

/-- A statement behind its keyword. -/
def readKeyword : (fuel : Nat) → (word : String) → Reading Statement
  | 0, _ => unexpected
  | fuel + 1, word => do
    match word with
    | "if" =>
      let (condition, first) ← readGuarded fuel
      if ← atKeyword "else" then
        advance
        skipNewlines
        return .choice condition first (some (← readStatement fuel))
      else return .choice condition first none
    | "while" =>
      expect "("
      let condition ← readExpr fuel
      expect ")"
      return .loop false condition (← readLooped fuel)
    | "do" =>
      let body ← readLooped fuel
      return .loop true (← readUntilSound fuel) body
    | "for" =>
      expect "("
      -- which loop it is can only be seen four tokens on
      match (← get).tokens with
      | (.name name, _) :: (.keyword "in", _) :: (.name table, _) :: (.mark ")", _) :: _ =>
        advance
        advance
        advance
        expect ")"
        return .each name table (← readLooped fuel)
      | (.name _, _) :: (.keyword "in", _) :: (token, _) :: _ =>
        advance
        advance
        match token with
        | .name _ => advance
        | _ => pure ()
        unexpected
      | _ =>
        let start ← readPart fuel atSeparator
        expectSemicolon
        let condition ← readPart fuel atSeparator
        expectSemicolon
        let step ← readPart fuel (atMark ")")
        expect ")"
        return .count start condition step (← readLooped fuel)
    | "print" =>
      -- from here on a comparison sign would lead to a file
      modify fun r => { r with printing := true }
      let values ← readPrinted fuel
      let output ← readOutput fuel
      expectSeparator
      return .print values output
    | "printf" =>
      modify fun r => { r with printing := true }
      let values ← readPrinted fuel
      let output ← readOutput fuel
      if values.isEmpty then complainAt "no arguments in call to printf"
      expectSeparator
      return .printf values output
    | "next" | "nextfile" =>
      let r ← get
      if r.inFunction ∨ ¬ r.forRecords then complainAt s!"improper use of {word}"
      expectSeparator
      return if word = "next" then .next else .nextFile
    | "exit" =>
      let status ← readPart fuel atSeparator
      expectSeparator
      return .exit status
    | "return" =>
      if ¬ (← get).inFunction then complainAt "return outside function body"
      let value ← readPart fuel atSeparator
      expectSeparator
      return .return value
    | "break" | "continue" =>
      if (← get).loops = 0 then complainAt s!"{word} statement outside of loop"
      expectSeparator
      return if word = "break" then .leave else .again
    | "delete" =>
      let table ← expectName
      if ← atMark "[" then
        advance
        let subscript ← readList fuel
        expect "]"
        expectSeparator
        return .delete table subscript
      else
        expectSeparator
        return .delete table []
    | _ => unexpected

/-- The condition behind the body of a loop.  Behind a fault in it there has to be another one. -/
def readUntilSound : (fuel : Nat) → Reading Expr
  | 0 => throw ()
  | fuel + 1 => do
    let condition : Reading Expr := do
      if ← atKeyword "while" then
        advance
        expect "("
        let condition ← readExpr fuel
        expect ")"
        expectSeparator
        return condition
      else unexpected
    try condition
    catch _ => do
      recover fuel
      readUntilSound fuel

/-- A block. -/
def readBlock : (fuel : Nat) → Reading (List Statement)
  | 0 => unexpected
  | fuel + 1 => do
    expect "\x7b"
    readStatements fuel

/-- Statements up to the closing brace. -/
def readStatements : (fuel : Nat) → Reading (List Statement)
  | 0 => unexpected
  | fuel + 1 => do
    if ← atMark "\x7d" then
      advance
      return []
    else
      let first ← readStatement fuel
      return first :: (← readStatements fuel)

end

/-! ### Programs -/

/-- Names between commas up to the closing parenthesis. -/
def readParameters : (fuel : Nat) → Reading (List String)
  | 0 => unexpected
  | fuel + 1 => do
    let name ← expectName
    if ← atMark "," then
      advance
      return name :: (← readParameters fuel)
    else return [name]

/-- A function behind its keyword. -/
def readFunction (fuel : Nat) : Reading Function := do
  let name ← match ← peek with
    | .name text | .call text =>
      advance
      pure text
    | _ => unexpected
  expect "("
  let parameters ← if ← atMark ")" then pure [] else readParameters fuel
  expect ")"
  skipNewlines
  modify fun r => { r with inFunction := true }
  let body ← readBlock fuel
  modify fun r => { r with inFunction := false }
  return ⟨name, parameters, body⟩

/-- A rule or a function. -/
def readItem (fuel : Nat) : Reading (Rule ⊕ Function) := do
  modify fun r => { r with forRecords := true, inFunction := false, loops := 0 }
  match ← peek with
  | .keyword "BEGIN" =>
    advance
    modify fun r => { r with forRecords := false }
    return .inl ⟨.start, some (← readBlock fuel)⟩
  | .keyword "END" =>
    advance
    modify fun r => { r with forRecords := false }
    return .inl ⟨.finish, some (← readBlock fuel)⟩
  | .keyword "function" =>
    advance
    return .inr (← readFunction fuel)
  | .mark "\x7b" => return .inl ⟨.always, some (← readBlock fuel)⟩
  | _ =>
    let first ← readExpr fuel
    let condition ← if ← atMark "," then
      advance
      pure (Condition.range first (← readExpr fuel))
      else pure (Condition.holds first)
    if ← atMark "\x7b" then return .inl ⟨condition, some (← readBlock fuel)⟩
    else
      expectSeparator
      return .inl ⟨condition, none⟩

/-- Goes on with the next block. -/
def recoverOutside : (fuel : Nat) → Reading Unit
  | 0 => throw ()
  | fuel + 1 => do
    let r ← get
    if r.broken then throw ()
    match r.next with
    | .finish => throw ()
    | .mark "\x7b" =>
      set { r with parentheses := 0, printing := false }
      let _ ← readBlock fuel
    | _ =>
      set { r with parentheses := r.parentheses + 1 }.drop
      modify fun r' => { r' with parentheses := r.parentheses }
      recoverOutside fuel

/-- Rules and functions up to the end. -/
def readItems (fuel : Nat) : (left : Nat) → Reading (List (Rule ⊕ Function))
  | 0 => return []
  | left + 1 => do
    match ← peek with
    | .finish => return []
    | _ =>
      let item ← try
        let item ← readItem fuel
        pure (some item)
      catch _ =>
        recoverOutside fuel
        pure none
      return item.toList ++ (← readItems fuel left)

/-- Complaints about calls of functions that are not defined, or with too many arguments. -/
def callComplaints (functions : List Function) (line : Nat) (calls : List (String × Nat × Nat)) :
    List String :=
  calls.reverse.filterMap fun (name, count, callLine) =>
    match functions.find? (·.name = name) with
    | none => some s!"line {line}: function {name} never defined"
    | some function =>
      if function.parameters.length < count then
        some s!"line {callLine}: too many arguments in call to {name}"
      else none

/-- Reads a program, or tells what is wrong with it. -/
def readProgram (chars : List Char) : Except (List String) Program :=
  let tokens := tokensOf (raised chars)
  let fuel := 20 * tokens.length + 100
  let r := Reader.settle tokens.length
    ⟨tokens, 0, 0, false, 3, [], false, 0, false, true, []⟩
  let (result, r) := (readItems fuel (tokens.length + 1)).run.run r
  let items := match result with
    | .ok items => items
    | .error _ => []
  let functions := items.filterMap fun item => item.getRight?
  let complaints := r.complaints.reverse ++
    (if r.complaints.isEmpty then callComplaints functions r.line r.calls else [])
  if complaints.isEmpty then .ok ⟨items.filterMap fun item => item.getLeft?, functions⟩
  else .error complaints

end Awk

end Shell

end TreeOutline
