import TreeOutline.Shell.Numeral
import TreeOutline.Shell.Script.Token
import TreeOutline.Steps

namespace TreeOutline

/-!
# Arithmetic in scripts

* `Shell.Sum` — arithmetic expressions; `Shell.SumFault` — why one has no value.
* `Shell.readSum` — an expression from its text.
* `Sum.value` — its value in 64 bits (`Shell.holds_of_readSum`), and the variables that it sets.
-/

namespace Shell

/-- An operator between two numbers. -/
inductive SumOperator where
  | add | subtract | multiply | divide | remainder
  | shiftLeft | shiftRight | bitAnd | bitXor | bitOr
  | below | atMost | above | atLeast | equal | unequal
deriving DecidableEq, Repr

/-- An arithmetic expression. -/
inductive Sum where
  | number (n : Int)
  | variable (name : String)
  | negative (sum : Sum)
  | bitNot (sum : Sum)
  | not (sum : Sum)
  | operation (operator : SumOperator) (left right : Sum)
  | both (left right : Sum)
  | either (left right : Sum)
  | choice (condition left right : Sum)
  | assign (name : String) (operator : Option SumOperator) (sum : Sum)
deriving Repr

/-- Why an expression has no value. -/
inductive SumFault where
  | expectingPrimary
  | expectingEnd
  | expecting (text : String)
  | divisionByZero
  | badNumber (text : String)
deriving DecidableEq, Repr

/-- The wording of a fault in the expression with a text. -/
def SumFault.message (expression : String) : SumFault → String
  | .badNumber text => s!"Illegal number: {text}"
  | .expectingPrimary => place "expecting primary"
  | .expectingEnd => place "expecting EOF"
  | .expecting text => place s!"expecting '{text}'"
  | .divisionByZero => place "division by zero"
where
  /-- The wording with the expression behind it. -/
  place (text : String) : String := s!"arithmetic expression: {text}: " ++ inQuotes expression

/-- A number in the range of 64 bits with a sign. -/
def wrapped (n : Int) : Int := n.bmod 0x10000000000000000

/-- A number that is wrapped is one of 64 bits. -/
theorem holds_wrapped (n : Int) : IntRange.signed64.holds (wrapped n) = true := by
  have hlow := Int.le_bmod (x := n) (m := 0x10000000000000000) (by decide)
  have hhigh := Int.bmod_lt (x := n) (m := 0x10000000000000000) (by decide)
  rw [IntRange.holds_eq_true_iff]
  simp only [wrapped, IntRange.signed64]
  omega

/-! ### Reading -/

/-- Operators between two numbers by how tightly they bind, loosest first; of those that bind alike,
longer ones come first. -/
def sumOperators : List (List (String × SumOperator)) :=
  [[("|", .bitOr)], [("^", .bitXor)], [("&", .bitAnd)], [("==", .equal), ("!=", .unequal)],
    [("<=", .atMost), (">=", .atLeast), ("<", .below), (">", .above)],
    [("<<", .shiftLeft), (">>", .shiftRight)], [("+", .add), ("-", .subtract)],
    [("*", .multiply), ("/", .divide), ("%", .remainder)]]

/-- The operator of a list at the start, and the rest.  A sign of a longer operator is none. -/
def sumOperator? (among : List (String × SumOperator)) (chars : List Char) :
    Option (SumOperator × List Char) :=
  let chars := skipSpace chars
  let longer := ["||", "&&", "<<", ">>", "<=", ">=", "==", "!="]
  among.findSome? fun (text, operator) =>
    if longer.any fun other =>
        other ≠ text ∧ other.startsWith text ∧ (dropText? other chars).isSome then none
    else
      match dropText? text chars with
      | some ('=' :: rest) =>
        if text ∈ ["==", "!=", "<=", ">=", "<", ">"] then some (operator, '=' :: rest) else none
      | some rest => some (operator, rest)
      | none => none

/-- The operator of an assignment at the start, and the rest. -/
def assignment? (chars : List Char) : Option (Option SumOperator × List Char) :=
  let chars := skipSpace chars
  let combined := sumOperators.flatten.findSome? fun (text, operator) =>
    if text ∈ ["==", "!=", "<=", ">=", "<", ">"] then none
    else (dropText? (text ++ "=") chars).map fun rest => (some operator, rest)
  match chars with
  | '=' :: '=' :: _ => none
  | '=' :: rest => some (none, rest)
  | _ => combined

mutual

/-- An assignment, or an expression with a choice in it. -/
def readAssignment : (fuel : Nat) → List Char → Except SumFault (Sum × List Char)
  | 0, _ => .error .expectingPrimary
  | fuel + 1, chars =>
    let chars := skipSpace chars
    let name := chars.takeWhile isNameChar
    match isName name, assignment? (chars.drop name.length) with
    | true, some (operator, rest) => do
      let (sum, rest) ← readAssignment fuel rest
      .ok (.assign (String.ofList name) operator sum, rest)
    | _, _ => readChoice? fuel chars

/-- An expression with a choice in it. -/
def readChoice? : (fuel : Nat) → List Char → Except SumFault (Sum × List Char)
  | 0, _ => .error .expectingPrimary
  | fuel + 1, chars => do
    let (condition, rest) ← readEither fuel chars
    match skipSpace rest with
    | '?' :: rest => do
      let (left, rest) ← readAssignment fuel rest
      match skipSpace rest with
      | ':' :: rest => do
        let (right, rest) ← readChoice? fuel rest
        .ok (.choice condition left right, rest)
      | _ => .error (.expecting ":")
    | rest => .ok (condition, rest)

/-- Conditions one of which has to hold. -/
def readEither : (fuel : Nat) → List Char → Except SumFault (Sum × List Char)
  | 0, _ => .error .expectingPrimary
  | fuel + 1, chars => do
    let (left, rest) ← readBoth fuel chars
    match skipSpace rest with
    | '|' :: '|' :: rest => do
      let (right, rest) ← readEither fuel rest
      .ok (.either left right, rest)
    | rest => .ok (left, rest)

/-- Conditions that all have to hold. -/
def readBoth : (fuel : Nat) → List Char → Except SumFault (Sum × List Char)
  | 0, _ => .error .expectingPrimary
  | fuel + 1, chars => do
    let (left, rest) ← readTerms fuel sumOperators chars
    match skipSpace rest with
    | '&' :: '&' :: rest => do
      let (right, rest) ← readBoth fuel rest
      .ok (.both left right, rest)
    | rest => .ok (left, rest)

/-- Terms between operators of the levels given, the first level binding loosest. -/
def readTerms : (fuel : Nat) → (levels : List (List (String × SumOperator))) → List Char →
    Except SumFault (Sum × List Char)
  | 0, _, _ => .error .expectingPrimary
  | fuel + 1, [], chars => readPrimary fuel chars
  | fuel + 1, level :: levels, chars => do
    let (first, rest) ← readTerms fuel levels chars
    readMoreTerms fuel level levels first rest

/-- The terms behind a first one. -/
def readMoreTerms : (fuel : Nat) → (level : List (String × SumOperator)) →
    (levels : List (List (String × SumOperator))) → Sum → List Char →
    Except SumFault (Sum × List Char)
  | 0, _, _, _, _ => .error .expectingPrimary
  | fuel + 1, level, levels, first, chars =>
    match sumOperator? level chars with
    | none => .ok (first, chars)
    | some (operator, rest) => do
      let (second, rest) ← readTerms fuel levels rest
      readMoreTerms fuel level levels (.operation operator first second) rest

/-- A number, a variable, an expression in parentheses, or one of these behind a sign. -/
def readPrimary : (fuel : Nat) → List Char → Except SumFault (Sum × List Char)
  | 0, _ => .error .expectingPrimary
  | fuel + 1, chars =>
    let chars := skipSpace chars
    let name := chars.takeWhile isNameChar
    match leadingNumber? chars, chars with
    | some (n, rest), _ => .ok (.number n, rest)
    | none, '(' :: rest => do
      let (sum, rest) ← readAssignment fuel rest
      match skipSpace rest with
      | ')' :: rest => .ok (sum, rest)
      | _ => .error (.expecting ")")
    | none, '+' :: rest => readPrimary fuel rest
    | none, '-' :: rest => do
      let (sum, rest) ← readPrimary fuel rest
      .ok (.negative sum, rest)
    | none, '~' :: rest => do
      let (sum, rest) ← readPrimary fuel rest
      .ok (.bitNot sum, rest)
    | none, '!' :: rest => do
      let (sum, rest) ← readPrimary fuel rest
      .ok (.not sum, rest)
    | none, chars =>
      if isName name then .ok (.variable (String.ofList name), chars.drop name.length)
      else .error .expectingPrimary

end

/-- The expression that a text writes. -/
def readSum (text : String) : Except SumFault Sum := do
  let chars := text.toList
  let (sum, rest) ← readAssignment (32 * chars.length + 64) chars
  if (skipSpace rest).isEmpty then .ok sum else .error .expectingEnd

/-- All numbers in an expression are of 64 bits. -/
def Sum.Fits : Sum → Prop
  | .number n => IntRange.signed64.holds n = true
  | .variable _ => True
  | .negative sum | .bitNot sum | .not sum | .assign _ _ sum => sum.Fits
  | .operation _ left right | .both left right | .either left right => left.Fits ∧ right.Fits
  | .choice condition left right => condition.Fits ∧ left.Fits ∧ right.Fits

/-- The numbers of an expression that is read are of 64 bits: each of the readers, given so much
fuel, makes it from such numbers. -/
theorem fits_of_read (fuel : Nat) :
    (∀ chars sum rest, readAssignment fuel chars = .ok (sum, rest) → sum.Fits) ∧
    (∀ chars sum rest, readChoice? fuel chars = .ok (sum, rest) → sum.Fits) ∧
    (∀ chars sum rest, readEither fuel chars = .ok (sum, rest) → sum.Fits) ∧
    (∀ chars sum rest, readBoth fuel chars = .ok (sum, rest) → sum.Fits) ∧
    (∀ levels chars sum rest, readTerms fuel levels chars = .ok (sum, rest) → sum.Fits) ∧
    (∀ level levels first chars sum rest, first.Fits →
      readMoreTerms fuel level levels first chars = .ok (sum, rest) → sum.Fits) ∧
    (∀ chars sum rest, readPrimary fuel chars = .ok (sum, rest) → sum.Fits) := by
  induction fuel with
  | zero =>
    refine ⟨?_, ?_, ?_, ?_, ?_, ?_, ?_⟩
    all_goals
      intros
      simp [readAssignment, readChoice?, readEither, readBoth, readTerms, readMoreTerms,
        readPrimary] at *
  | succ fuel ih =>
    obtain ⟨hassignment, hchoice, heither, hboth, hterms, hmore, hprimary⟩ := ih
    refine ⟨?_, ?_, ?_, ?_, ?_, ?_, ?_⟩
    · intro chars sum rest h
      rw [readAssignment] at h
      dsimp only at h
      split at h
      next =>
        obtain ⟨⟨right, left⟩, hread, heq⟩ := exists_of_bind_eq_ok h
        cases heq
        have hright : right.Fits := hassignment _ _ _ hread
        exact hright
      next => exact hchoice _ _ _ h
    · intro chars sum rest h
      rw [readChoice?] at h
      obtain ⟨⟨condition, left⟩, hread, h⟩ := exists_of_bind_eq_ok h
      dsimp only at h
      split at h
      next =>
        obtain ⟨⟨first, left⟩, hfirst, h⟩ := exists_of_bind_eq_ok h
        dsimp only at h
        split at h
        next =>
          obtain ⟨⟨second, left⟩, hsecond, h⟩ := exists_of_bind_eq_ok h
          cases h
          exact ⟨heither _ _ _ hread, hassignment _ _ _ hfirst, hchoice _ _ _ hsecond⟩
        next => exact absurd h (by simp)
      next =>
        cases h
        exact heither _ _ _ hread
    · intro chars sum rest h
      rw [readEither] at h
      obtain ⟨⟨first, left⟩, hfirst, h⟩ := exists_of_bind_eq_ok h
      dsimp only at h
      split at h
      next =>
        obtain ⟨⟨second, left⟩, hsecond, h⟩ := exists_of_bind_eq_ok h
        cases h
        exact ⟨hboth _ _ _ hfirst, heither _ _ _ hsecond⟩
      next =>
        cases h
        exact hboth _ _ _ hfirst
    · intro chars sum rest h
      rw [readBoth] at h
      obtain ⟨⟨first, left⟩, hfirst, h⟩ := exists_of_bind_eq_ok h
      dsimp only at h
      split at h
      next =>
        obtain ⟨⟨second, left⟩, hsecond, h⟩ := exists_of_bind_eq_ok h
        cases h
        exact ⟨hterms _ _ _ _ hfirst, hboth _ _ _ hsecond⟩
      next =>
        cases h
        exact hterms _ _ _ _ hfirst
    · intro levels chars sum rest h
      cases levels with
      | nil => exact hprimary _ _ _ (by rw [readTerms] at h; exact h)
      | cons level levels =>
        rw [readTerms] at h
        obtain ⟨⟨first, left⟩, hfirst, h⟩ := exists_of_bind_eq_ok h
        exact hmore _ _ _ _ _ _ (hterms _ _ _ _ hfirst) h
    · intro level levels first chars sum rest hfits h
      rw [readMoreTerms] at h
      split at h
      next =>
        cases h
        exact hfits
      next operator behind hoperator =>
        obtain ⟨⟨second, left⟩, hsecond, h⟩ := exists_of_bind_eq_ok h
        have hsum : (Sum.operation operator first second).Fits := ⟨hfits, hterms _ _ _ _ hsecond⟩
        exact hmore _ _ _ _ _ _ hsum h
    · intro chars sum rest h
      rw [readPrimary] at h
      dsimp only at h
      split at h
      next n left hnumber =>
        cases h
        have hn := holds_of_leadingNumber? hnumber
        have hleast : IntRange.signed64.least ≤ 0 := by decide
        exact (IntRange.holds_eq_true_iff _ n).2 ⟨Int.le_trans hleast hn.1, hn.2⟩
      next =>
        obtain ⟨⟨inner, left⟩, hread, h⟩ := exists_of_bind_eq_ok h
        dsimp only at h
        split at h
        next => cases h; exact hassignment _ _ _ hread
        next => exact absurd h (by simp)
      next => exact hprimary _ _ _ h
      case h_7 =>
        split at h
        next => cases h; exact trivial
        next => exact absurd h (by simp)
      all_goals
        obtain ⟨⟨inner, left⟩, hread, h⟩ := exists_of_bind_eq_ok h
        cases h
        have hinner : inner.Fits := hprimary _ _ _ hread
        exact hinner

/-- An expression that is read has numbers of 64 bits alone. -/
theorem fits_of_readSum {text : String} {sum : Sum} (h : readSum text = .ok sum) : sum.Fits := by
  obtain ⟨⟨read, rest⟩, hread, h⟩ := exists_of_bind_eq_ok h
  dsimp only at h
  split at h
  · cases h
    exact (fits_of_read _).1 _ _ _ hread
  · exact absurd h (by simp)

/-! ### Values -/

/-- One for what holds, and zero. -/
def truth (holds : Bool) : Int := if holds then 1 else 0

/-- So is a truth value. -/
theorem holds_truth (holds : Bool) : IntRange.signed64.holds (truth holds) = true := by
  cases holds <;> rfl

/-- The value of an operation, in 64 bits. -/
def SumOperator.apply (operator : SumOperator) (a b : Int) : Except SumFault Int :=
  let bits (f : Nat → Nat → Nat) : Int :=
    wrapped (f (a % 0x10000000000000000).toNat (b % 0x10000000000000000).toNat)
  match operator with
  | .add => .ok (wrapped (a + b))
  | .subtract => .ok (wrapped (a - b))
  | .multiply => .ok (wrapped (a * b))
  | .divide => if b = 0 then .error .divisionByZero else .ok (wrapped (a.tdiv b))
  | .remainder => if b = 0 then .error .divisionByZero else .ok (wrapped (a.tmod b))
  | .shiftLeft => .ok (wrapped (a * Nat.pow 2 (b % 64).toNat))
  | .shiftRight => .ok (a.fdiv (Nat.pow 2 (b % 64).toNat))
  | .bitAnd => .ok (bits (· &&& ·))
  | .bitXor => .ok (bits (· ^^^ ·))
  | .bitOr => .ok (bits (· ||| ·))
  | .below => .ok (truth (a < b))
  | .atMost => .ok (truth (a ≤ b))
  | .above => .ok (truth (b < a))
  | .atLeast => .ok (truth (b ≤ a))
  | .equal => .ok (truth (a = b))
  | .unequal => .ok (truth (a ≠ b))

/-- A number that is shifted to the right is not further from zero than before. -/
theorem holds_fdiv {a : Int} {d : Nat} (hd : 0 < d) (ha : IntRange.signed64.holds a = true) :
    IntRange.signed64.holds (a.fdiv d) = true := by
  rw [IntRange.holds_eq_true_iff] at ha ⊢
  have hd : (0 : Int) < d := Int.ofNat_lt.2 hd
  rw [Int.fdiv_eq_ediv_of_nonneg a (Int.le_of_lt hd)]
  rcases Int.lt_or_le a 0 with hneg | hpos
  · have hlow : a ≤ a / d := by
      refine Int.le_ediv_of_mul_le hd ?_
      have h := Int.mul_le_mul_of_nonpos_left (Int.le_of_lt hneg) (show (1 : Int) ≤ d by omega)
      rwa [Int.mul_one] at h
    have hhigh := Int.ediv_neg_of_neg_of_pos hneg hd
    have hgreatest : (0 : Int) ≤ IntRange.signed64.greatest := by decide
    omega
  · have hlow := Int.ediv_nonneg hpos (Int.le_of_lt hd)
    have hhigh := Int.ediv_le_self (b := d) hpos
    have hleast : IntRange.signed64.least ≤ 0 := by decide
    omega

/-- **An operation** on numbers of 64 bits gives one of 64 bits. -/
theorem SumOperator.holds_of_apply {operator : SumOperator} {a b n : Int}
    (ha : IntRange.signed64.holds a = true) (h : operator.apply a b = .ok n) :
    IntRange.signed64.holds n = true := by
  cases operator <;> simp only [apply] at h
  case divide | remainder =>
    split at h
    · exact absurd h (by simp)
    · rw [← Except.ok.inj h]
      exact holds_wrapped _
  case shiftRight =>
    rw [← Except.ok.inj h]
    exact holds_fdiv (Nat.two_pow_pos _) ha
  all_goals
    rw [← Except.ok.inj h]
    first
      | exact holds_wrapped _
      | exact holds_truth _

/-- The value of an expression, and the variables with those that it sets.  What does not decide
the value has no effect either. -/
def Sum.value (known : String → Option String) : Sum → List (String × Int) →
    Except SumFault (Int × List (String × Int))
  | .number n, set => .ok (n, set)
  | .variable name, set =>
    match set.lookup name, known name with
    | some n, _ => .ok (n, set)
    | none, some text =>
      match wholeNumber? text with
      | some n => .ok (n, set)
      | none => .error (.badNumber text)
    -- a variable that is not set counts as zero
    | none, none => .ok (0, set)
  | .negative sum, set => (sum.value known set).map fun (n, set) => (wrapped (-n), set)
  | .bitNot sum, set => (sum.value known set).map fun (n, set) => (-n - 1, set)
  | .not sum, set => (sum.value known set).map fun (n, set) => (truth (n = 0), set)
  | .operation operator left right, set => do
    let (a, set) ← left.value known set
    let (b, set) ← right.value known set
    let n ← operator.apply a b
    .ok (n, set)
  | .both left right, set => do
    let (a, set) ← left.value known set
    -- the second operand is not computed, so its settings are not made
    if a = 0 then .ok (0, set)
    else (right.value known set).map fun (b, set) => (truth (b ≠ 0), set)
  | .either left right, set => do
    let (a, set) ← left.value known set
    if a ≠ 0 then .ok (1, set)
    else (right.value known set).map fun (b, set) => (truth (b ≠ 0), set)
  | .choice condition left right, set => do
    let (a, set) ← condition.value known set
    if a ≠ 0 then left.value known set else right.value known set
  | .assign name operator sum, set => do
    let (b, set) ← sum.value known set
    match operator with
    | none => .ok (b, (name, b) :: set)
    | some operator => do
      let (a, set) ← (Sum.variable name).value known set
      let n ← operator.apply a b
      .ok (n, (name, n) :: set)

/-- A variable has a number of 64 bits, and looking at it sets none. -/
theorem Sum.holds_of_value_variable {known : String → Option String} {name : String}
    {set set' : List (String × Int)} {n : Int}
    (hset : ∀ entry ∈ set, IntRange.signed64.holds entry.2 = true)
    (h : (Sum.variable name).value known set = .ok (n, set')) :
    IntRange.signed64.holds n = true ∧ set' = set := by
  rw [value] at h
  split at h
  next m _ hlookup =>
    cases h
    obtain ⟨front, back, heq, -⟩ := List.lookup_eq_some_iff.1 hlookup
    exact ⟨hset (name, n) (by rw [heq]; simp), rfl⟩
  next text hlookup hknown =>
    split at h
    next m hm =>
      cases h
      exact ⟨holds_of_wholeNumber? hm, rfl⟩
    next => exact absurd h (by simp)
  next =>
    cases h
    exact ⟨by decide, rfl⟩

/-- **The values of an expression** and of the variables that it sets are numbers of 64 bits. -/
theorem Sum.holds_of_value {known : String → Option String} {sum : Sum} (hsum : sum.Fits)
    {set set' : List (String × Int)} {n : Int}
    (hset : ∀ entry ∈ set, IntRange.signed64.holds entry.2 = true)
    (h : sum.value known set = .ok (n, set')) :
    IntRange.signed64.holds n = true ∧
      ∀ entry ∈ set', IntRange.signed64.holds entry.2 = true := by
  induction sum generalizing set set' n with
  | number m =>
    rw [value] at h
    cases h
    exact ⟨hsum, hset⟩
  | «variable» name =>
    obtain ⟨hn, rfl⟩ := holds_of_value_variable hset h
    exact ⟨hn, hset⟩
  | negative sum ih =>
    rw [value] at h
    obtain ⟨⟨m, left⟩, hread, heq⟩ := exists_of_map_eq_ok h
    cases heq
    exact ⟨holds_wrapped _, (ih hsum hset hread).2⟩
  | bitNot sum ih =>
    rw [value] at h
    obtain ⟨⟨m, left⟩, hread, heq⟩ := exists_of_map_eq_ok h
    cases heq
    obtain ⟨hm, hleft⟩ := ih hsum hset hread
    refine ⟨?_, hleft⟩
    rw [IntRange.holds_eq_true_iff] at hm ⊢
    simp only [IntRange.signed64] at hm ⊢
    omega
  | not sum ih =>
    rw [value] at h
    obtain ⟨⟨m, left⟩, hread, heq⟩ := exists_of_map_eq_ok h
    cases heq
    exact ⟨holds_truth _, (ih hsum hset hread).2⟩
  | operation operator left right hleft hright =>
    rw [value] at h
    obtain ⟨⟨a, set₁⟩, ha, h⟩ := exists_of_bind_eq_ok h
    obtain ⟨⟨b, set₂⟩, hb, h⟩ := exists_of_bind_eq_ok h
    obtain ⟨m, hm, h⟩ := exists_of_bind_eq_ok h
    cases h
    have ha := hleft hsum.1 hset ha
    exact ⟨operator.holds_of_apply ha.1 hm, (hright hsum.2 ha.2 hb).2⟩
  | both left right hleft hright | either left right hleft hright =>
    rw [value] at h
    obtain ⟨⟨a, set₁⟩, ha, h⟩ := exists_of_bind_eq_ok h
    have ha := hleft hsum.1 hset ha
    dsimp only at h
    split at h
    · cases h
      exact ⟨by decide, ha.2⟩
    · obtain ⟨⟨b, set₂⟩, hb, heq⟩ := exists_of_map_eq_ok h
      cases heq
      exact ⟨holds_truth _, (hright hsum.2 ha.2 hb).2⟩
  | choice condition left right hcondition hleft hright =>
    rw [value] at h
    obtain ⟨⟨a, set₁⟩, ha, h⟩ := exists_of_bind_eq_ok h
    have ha := hcondition hsum.1 hset ha
    dsimp only at h
    split at h
    · exact hleft hsum.2.1 ha.2 h
    · exact hright hsum.2.2 ha.2 h
  | assign name operator sum ih =>
    rw [value] at h
    obtain ⟨⟨b, set₁⟩, hb, h⟩ := exists_of_bind_eq_ok h
    have hb := ih hsum hset hb
    dsimp only at h
    split at h
    · cases h
      exact ⟨hb.1, List.forall_mem_cons.2 ⟨hb.1, hb.2⟩⟩
    · obtain ⟨⟨a, set₂⟩, ha, h⟩ := exists_of_bind_eq_ok h
      obtain ⟨m, hm, h⟩ := exists_of_bind_eq_ok h
      cases h
      have hn := SumOperator.holds_of_apply (holds_of_value_variable hb.2 ha).1 hm
      obtain rfl := (holds_of_value_variable hb.2 ha).2
      exact ⟨hn, List.forall_mem_cons.2 ⟨hn, hb.2⟩⟩

/-- The value of an expression that is read is a number of 64 bits. -/
theorem holds_of_readSum {text : String} {sum : Sum} (hread : readSum text = .ok sum)
    {known : String → Option String} {n : Int} {set : List (String × Int)}
    (h : sum.value known [] = .ok (n, set)) : IntRange.signed64.holds n = true :=
  (Sum.holds_of_value (fits_of_readSum hread) (fun _ hentry => absurd hentry List.not_mem_nil) h).1

end Shell

end TreeOutline
