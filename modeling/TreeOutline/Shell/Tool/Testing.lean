import TreeOutline.Shell.Tool.Basic

namespace TreeOutline

/-!
# Tests

A condition is read word by word; the word that was read last stays in front of those that are
left, so that a word too many can be told.

* `Shell.TestFault` — why a condition cannot be tested; `TestFault.message` is its wording.
* `Shell.condition` — whether a condition holds; a single word does unless it is empty
  (`Shell.condition_singleton`).
* `Shell.test` — a condition as a tool, its status being the answer.
-/

namespace Shell

/-- Why a condition cannot be tested. -/
inductive TestFault where
  | badNumber (word : String)
  | missingBracket
  | missingParenthesis
  | argumentExpected (operator : String)
  | unexpectedOperator (word : String)
deriving DecidableEq, Repr

/-- The wording of a fault. -/
def TestFault.message : TestFault → String
  | .badNumber word => s!"Illegal number: {word}"
  | .missingBracket => "missing ]"
  | .missingParenthesis => "closing paren expected"
  | .argumentExpected operator => s!"{operator}: argument expected"
  | .unexpectedOperator "" => "unexpected operator"
  | .unexpectedOperator word => s!"{word}: unexpected operator"

/-! ### Operators -/

/-- Operators with a word behind them. -/
def unaryOperators : List String :=
  ["-r", "-w", "-x", "-e", "-f", "-d", "-c", "-b", "-p", "-u", "-g", "-k", "-s", "-t", "-z", "-n",
    "-h", "-O", "-G", "-L", "-S"]

/-- Operators between two words. -/
def binaryOperators : List String :=
  ["=", "!=", "<", ">", "-eq", "-ne", "-ge", "-gt", "-le", "-lt", "-nt", "-ot", "-ef"]

/-- What a word means where a condition may begin. -/
inductive TestWord where
  | finish
  | operand
  | unary (operator : String)
  | not
  | opening
  | closing
  | and
  | or
deriving DecidableEq, Repr

/-- What the first of some words means.  An operator that is one side of a comparison is an
operand. -/
def testWord : List String → TestWord
  | [] => .finish
  | word :: rest =>
    match word, rest with
    | "!", _ => .not
    | "-a", _ => .and
    | "-o", _ => .or
    | "(", [] => .operand
    | "(", _ => .opening
    | ")", _ => .closing
    | _, [] => .operand
    | word, next :: more =>
      if word ∈ unaryOperators ∧ ¬ (next ∈ binaryOperators ∧ more ≠ []) then .unary word
      else .operand

/-- The answer of an operator with one word. -/
def unaryAnswer (task : Task) (operator word : String) : Bool :=
  let file := task.contents? word
  let isDirectory := task.store.isDirectory word
  let isDevice := word.startsWith "/dev/"
  match operator with
  | "-n" => word ≠ ""
  | "-z" => word = ""
  | "-e" | "-r" | "-w" | "-O" | "-G" => (file.isSome && word ≠ "-") || isDirectory
  | "-f" => file.isSome && !isDevice && word ≠ "-"
  | "-c" => file.isSome && isDevice
  | "-s" => (file.any (!·.isEmpty) && word ≠ "-") || isDirectory
  | "-d" => isDirectory
  | "-x" => isDirectory || task.store.programs.contains (task.store.full word)
  | _ => false

/-- The answer of an operator between two words. -/
def binaryAnswer (left operator right : String) : Except TestFault Bool :=
  let compare (p : Int → Int → Bool) : Except TestFault Bool :=
    match decimal? left, decimal? right with
    | some a, some b => .ok (p a b)
    | none, _ => .error (.badNumber left)
    | _, none => .error (.badNumber right)
  match operator with
  | "=" => .ok (left == right)
  | "!=" => .ok (left != right)
  | "<" => .ok (left < right)
  | ">" => .ok (right < left)
  | "-eq" => compare (· == ·)
  | "-ne" => compare (· != ·)
  | "-lt" => compare (· < ·)
  | "-le" => compare (· ≤ ·)
  | "-gt" => compare (· > ·)
  | "-ge" => compare (· ≥ ·)
  | "-ef" => .ok (left == right)
  | _ => .ok false

/-- The opposite of an operator between numbers has the opposite answer, and the same faults. -/
theorem binaryAnswer_opposite (left right : String) :
    binaryAnswer left "-ne" right = (binaryAnswer left "-eq" right).map (!·) ∧
    binaryAnswer left "-ge" right = (binaryAnswer left "-lt" right).map (!·) ∧
    binaryAnswer left "-le" right = (binaryAnswer left "-gt" right).map (!·) := by
  have hlt (a b : Int) : decide (b ≤ a) = !decide (a < b) := by
    rw [← decide_not, decide_eq_decide, Int.not_lt]
  simp only [binaryAnswer]
  refine ⟨?_, ?_, ?_⟩ <;> split <;> simp [Except.map, bne, hlt]

/-! ### Conditions -/

mutual

/-- Conditions one of which has to hold, the first word having a meaning. -/
def disjunction (task : Task) : (fuel : Nat) → TestWord → List String →
    Except TestFault (Bool × List String)
  | 0, _, words => .ok (false, words)
  | fuel + 1, kind, words => do
    let (first, words) ← conjunction task fuel kind words
    match testWord (words.drop 1) with
    | .or =>
      let words := words.drop 2
      let (second, words) ← disjunction task fuel (testWord words) words
      .ok (first || second, words)
    | _ => .ok (first, words)

/-- Conditions that all have to hold. -/
def conjunction (task : Task) : (fuel : Nat) → TestWord → List String →
    Except TestFault (Bool × List String)
  | 0, _, words => .ok (false, words)
  | fuel + 1, kind, words => do
    let (first, words) ← negation task fuel kind words
    match testWord (words.drop 1) with
    | .and =>
      let words := words.drop 2
      let (second, words) ← conjunction task fuel (testWord words) words
      .ok (first && second, words)
    | _ => .ok (first, words)

/-- A condition that may not have to hold. -/
def negation (task : Task) : (fuel : Nat) → TestWord → List String →
    Except TestFault (Bool × List String)
  | 0, _, words => .ok (false, words)
  | fuel + 1, kind, words =>
    if kind ≠ .not then primary task fuel kind words
    else do
      let next := testWord (words.drop 1)
      let words := if next = .finish then words else words.drop 1
      let (holds, words) ← negation task fuel next words
      .ok (!holds, words)

/-- A single condition. -/
def primary (task : Task) : (fuel : Nat) → TestWord → List String →
    Except TestFault (Bool × List String)
  | 0, _, words => .ok (false, words)
  | fuel + 1, kind, words =>
    match kind, words with
    | .finish, words => .ok (false, words)
    | .opening, words => do
      let inside := words.drop 1
      if testWord inside = .closing then .ok (false, inside)
      else
        let (holds, words) ← disjunction task fuel (testWord inside) inside
        let words := words.drop 1
        if testWord words = .closing then .ok (holds, words) else .error .missingParenthesis
    | .unary operator, words =>
      match words.drop 1 with
      | [] => .error (.argumentExpected operator)
      | word :: rest => .ok (unaryAnswer task operator word, word :: rest)
    | _, left :: operator :: rest =>
      if operator ∉ binaryOperators then .ok (left ≠ "", left :: operator :: rest)
      else
        match rest with
        | [] => .error (.argumentExpected operator)
        | right :: rest =>
          (binaryAnswer left operator right).map fun holds => (holds, right :: rest)
    | _, words => .ok (words.head?.any (· ≠ ""), words)

end

/-- Whether a condition holds; no words are a condition that does not. -/
def condition (task : Task) (words : List String) : Except TestFault Bool := do
  let (kind, words) := match words with
    | [_, operator, _] =>
      if operator ∈ binaryOperators then (TestWord.operand, words) else special words
    | words => special words
  if words.isEmpty then .ok false
  else
    let (answer, rest) ← disjunction task (5 * words.length + 5) kind words
    match rest with
    | last :: _ :: _ => .error (.unexpectedOperator last)
    | _ => .ok answer
where
  /-- Words without parentheses around them, when they are three or four. -/
  special (words : List String) : TestWord × List String :=
    if words.length ∈ [3, 4] ∧ words.head? = some "(" ∧ words.getLast? = some ")" then
      let inside := (words.drop 1).dropLast
      (testWord inside, inside)
    else (testWord words, words)

/-- **A single word is a condition** that holds unless the word is empty, also if it looks like an
operator. -/
theorem condition_singleton (task : Task) (word : String) :
    condition task [word] = .ok (word ≠ "") := by
  have hkind : testWord [word] = .not ∧ word = "!" ∨
      ∃ kind ∈ [TestWord.and, .or, .closing, .operand], testWord [word] = kind := by
    unfold testWord
    dsimp only
    split <;> simp_all
  have hwhole : condition.special [word] = (testWord [word], [word]) := rfl
  rcases hkind with ⟨hnot, rfl⟩ | ⟨kind, hkind, htest⟩
  · rfl
  · have hprimary (fuel : Nat) : primary task (fuel + 1) kind [word] = .ok (word ≠ "", [word]) := by
      simp only [List.mem_cons, List.not_mem_nil, or_false] at hkind
      rcases hkind with rfl | rfl | rfl | rfl <;> simp [primary]
    have hplain : kind ≠ .not := by
      rintro rfl
      simp at hkind
    rw [condition]
    · rw [hwhole, htest]
      simp [disjunction, conjunction, negation, hplain, hprimary, testWord, bind, Except.bind]
    · simp

/-- A condition as a tool; under the name of a bracket the last word has to be the other one. -/
def test (name : String) (complain : String → List Char) (task : Task) : Report :=
  let answer : Except TestFault Bool := do
    let words ←
      if name ≠ "[" then Except.ok task.words
      else if task.words.getLast? = some "]" then .ok task.words.dropLast
      else .error .missingBracket
    condition task words
  match answer with
  | .ok holds => .quiet task (if holds then 0 else 1)
  | .error fault => ⟨[], complain fault.message, 2, task.input⟩

end Shell

end TreeOutline
