import TreeOutline.Shell.Pattern

namespace TreeOutline

/-!
# Patterns of records

Records are bytes.  Those that are no ASCII stand in a range of their own, so that each one is a
letter by itself.

* `Shell.Awk.raised`, `Shell.Awk.lowered` — a text with such bytes in their range, and back
  (`lowered_raised`).
* `Shell.Awk.readPattern` — reads a pattern; `Shell.Awk.MatchFault` — why one cannot be read.
* `Shell.Awk.firstMatch?` — the first match in a text.
-/

namespace Shell

namespace Awk

/-! ### Bytes as letters -/

/-- A text whose bytes that are no ASCII stand in a range of their own. -/
def raised (text : List Char) : List Char :=
  text.map fun c => if c.toNat < 0x80 then c else Char.ofNat (c.toNat + 0x1000)

/-- A text with its bytes as they are. -/
def lowered (text : List Char) : List Char :=
  text.map fun c => if c.toNat < 0x80 then c else Char.ofNat (c.toNat - 0x1000)

/-- **Bytes are got back** from their letters. -/
theorem lowered_raised {text : List Char} (h : ∀ c ∈ text, c.toNat < 0x100) :
    lowered (raised text) = text := by
  rw [lowered, raised, List.map_map]
  refine (List.map_congr_left fun c hc => ?_).trans (List.map_id' text)
  rw [Function.comp_apply]
  split
  · rfl
  · have hbyte := h c hc
    have hraised : (Char.ofNat (c.toNat + 0x1000)).toNat = c.toNat + 0x1000 := by
      rw [Char.ofNat, dif_pos (show (c.toNat + 0x1000).isValidChar from .inl (by omega))]
      rfl
    rw [hraised, if_neg (by omega), Nat.add_sub_cancel, Char.ofNat_toNat]

/-- The letter of a byte. -/
def letterOf (n : Nat) : Char :=
  if n % 256 < 0x80 then Char.ofNat (n % 256) else Char.ofNat (n % 256 + 0x1000)

/-! ### Escapes -/

/-- The letter that an escape stands for behind its backslash, and what follows: a control letter,
a number in base eight or sixteen. -/
def escape? (chars : List Char) : Option (Char × List Char) :=
  match chars with
  | [] => none
  | 'x' :: rest =>
    let digits := (rest.take 2).takeWhile isHexDigit
    if digits.isEmpty then none
    else
      some (letterOf (digits.foldl (fun n c => 16 * n + digitValue c) 0), rest.drop digits.length)
  | c :: rest =>
    if isOctal c then
      let digits := c :: (rest.take 2).takeWhile isOctal
      some (letterOf (digits.foldl (fun n c => 8 * n + digitValue c) 0),
        rest.drop (digits.length - 1))
    else if c = '"' then some ('"', rest)
    else (controlLetter? c).map fun letter => (letter, rest)

/-- What follows an escape ends the text. -/
theorem escape?_suffix {chars rest : List Char} {c : Char} (h : escape? chars = some (c, rest)) :
    rest <:+ chars := by
  unfold escape? at h
  split at h
  · cases h
  · obtain ⟨-, heq⟩ := Option.ite_none_left_eq_some.1 h
    obtain ⟨-, rfl⟩ := Prod.mk.inj (Option.some.inj heq)
    exact (List.drop_suffix _ _).trans (List.suffix_cons _ _)
  · split at h
    · obtain ⟨-, rfl⟩ := Prod.mk.inj (Option.some.inj h)
      exact (List.drop_suffix _ _).trans (List.suffix_cons _ _)
    · split at h
      · obtain ⟨-, rfl⟩ := Prod.mk.inj (Option.some.inj h)
        exact List.suffix_cons _ _
      · obtain ⟨letter, -, heq⟩ := Option.map_eq_some_iff.1 h
        obtain ⟨-, rfl⟩ := Prod.mk.inj heq
        exact List.suffix_cons _ _

/-- A text with its escapes replaced. -/
def withEscapes (chars : List Char) : List Char := go (chars.length + 1) chars
where
  /-- The text from here on. -/
  go : (fuel : Nat) → List Char → List Char
    | 0, _ => []
    | fuel + 1, chars =>
      match chars with
      | [] => []
      | '\\' :: rest =>
        match escape? rest with
        | some (c, rest) => c :: go fuel rest
        | none => '\\' :: rest.take 1 ++ go fuel (rest.drop 1)
      | c :: rest => c :: go fuel rest

/-- A text without a backslash has no escapes to replace. -/
theorem withEscapes_of_not_mem {chars : List Char} (h : '\\' ∉ chars) :
    withEscapes chars = chars := by
  have hgo : ∀ fuel, chars.length < fuel → withEscapes.go fuel chars = chars := by
    induction chars with
    | nil =>
      intro fuel hfuel
      cases fuel with
      | zero => exact absurd hfuel (Nat.not_lt_zero _)
      | succ fuel => rfl
    | cons c rest ih =>
      intro fuel hfuel
      rw [List.mem_cons, not_or] at h
      obtain ⟨hc, hrest⟩ := h
      cases fuel with
      | zero => exact absurd hfuel (Nat.not_lt_zero _)
      | succ fuel =>
        rw [withEscapes.go]
        · rw [ih hrest fuel (Nat.lt_of_succ_lt_succ hfuel)]
        · rintro rfl
          exact hc rfl
  exact hgo _ (Nat.lt_succ_self _)

/-! ### Reading patterns -/

/-- Why a pattern cannot be read. -/
inductive MatchFault where
  | unclosed
  | missingOperand
  | badSet
  | badCount
  | repeatedStart
deriving DecidableEq, Repr

/-- The wording of a fault. -/
def MatchFault.message : MatchFault → String
  | .unclosed => "missing ')'"
  | .missingOperand => "missing operand"
  | .badSet => "bad class -- [], [^] or ["
  | .badCount => "bad interval expression"
  | .repeatedStart => "syntax error ^* or ^+"

/-- The letters of a set up to its closing bracket, marking those that cannot begin or end a range;
and what follows. -/
def setItems : (fuel : Nat) → List Char → Except MatchFault (List (Char × Bool) × List Char)
  | 0, _ => .error .badSet
  | fuel + 1, chars =>
    let further (items : List (Char × Bool)) (rest : List Char) :
        Except MatchFault (List (Char × Bool) × List Char) :=
      (setItems fuel rest).map fun (more, rest) => (items ++ more, rest)
    match chars with
    | [] => .error .badSet
    | ']' :: rest => .ok ([], rest)
    | '[' :: ':' :: rest =>
      let name := rest.takeWhile (· ≠ ':')
      match rest.drop name.length, classChars? (String.ofList name) with
      | ':' :: ']' :: rest, some members => further (members.map fun c => (c, true)) rest
      | ':' :: ']' :: _, none => .error .badSet
      | _, _ => further [('[', false)] (':' :: rest)
    | '\\' :: rest =>
      match escape? rest, rest with
      | some (c, rest), _ => further [(c, true)] rest
      | none, c :: rest => further [(c, true)] rest
      | none, [] => .error .badSet
    | c :: rest => further [(c, false)] rest

/-- The letters of a set with its ranges written out; what goes down is no range. -/
def setLettersOf : (fuel : Nat) → List (Char × Bool) → List Char
  | 0, _ => []
  | fuel + 1, items =>
    match items with
    | [] => []
    | (low, _) :: ('-', false) :: (high, marked) :: rest =>
      if low ≤ high then charRange low high ++ setLettersOf fuel rest
      else low :: setLettersOf fuel (('-', true) :: (high, marked) :: rest)
    | (c, _) :: rest => c :: setLettersOf fuel rest

/-- A set behind its opening bracket, and what follows. -/
def readLetterSet (chars : List Char) : Except MatchFault (Pattern × List Char) := do
  let (negated, chars) := match chars with
    | '^' :: rest => (true, rest)
    | rest => (false, rest)
  let (first, chars) := match chars with
    | ']' :: rest => ([(']', false)], rest)
    | rest => ([], rest)
  let (items, rest) ← setItems (chars.length + 1) chars
  let items := first ++ items
  .ok (.oneOf negated (setLettersOf (items.length + 1) items), rest)

/-- The numbers of a repetition in braces, and what follows; `none` where the brace is a letter. -/
def countsBehindBrace? (chars : List Char) : Option ((Nat × Option Nat) × List Char) :=
  let (least, rest) := leadingNat chars
  match least, rest with
  | some n, '\x7d' :: rest => some ((n, some n), rest)
  | least, ',' :: rest =>
    match least, leadingNat rest with
    | some n, (none, '\x7d' :: rest) => some ((n, none), rest)
    | least, (some m, '\x7d' :: rest) => some ((least.getD 0, some m), rest)
    | _, _ => none
  | _, _ => none

/-- Applies the repetitions behind a part of a pattern.  A repetition of at least two or more is one
of exactly so many. -/
def readRepeats : (fuel : Nat) → Pattern → List Char → Except MatchFault (Pattern × List Char)
  | 0, pattern, rest => .ok (pattern, rest)
  | fuel + 1, pattern, chars =>
    let many (least : Nat) (most : Option Nat) (rest : List Char) :
        Except MatchFault (Pattern × List Char) :=
      if pattern matches .start then .error .repeatedStart
      else readRepeats fuel (.repeated pattern least most) rest
    match chars with
    | '*' :: rest => many 0 none rest
    | '+' :: rest => many 1 none rest
    | '?' :: rest => many 0 (some 1) rest
    | '\x7b' :: rest =>
      match countsBehindBrace? rest with
      | none => .ok (pattern, chars)
      | some ((least, most), rest) =>
        if most.any (· < least) then .error .badCount
        else many least (if 2 ≤ least then some least else most) rest
    | chars => .ok (pattern, chars)

/-- Reads a pattern up to the end or a closing parenthesis: the choices before this one, and the
parts of this one so far. -/
def readChoices : (fuel : Nat) → (earlier soFar : Option Pattern) → (depth : Nat) → List Char →
    Except MatchFault (Pattern × List Char)
  | 0, _, _, _, _ => .error .unclosed
  | fuel + 1, earlier, soFar, depth, chars => do
    let all : Option Pattern := match earlier, soFar with
      | some earlier, some soFar => some (.choice earlier soFar)
      | none, soFar => soFar
      | some _, none => none
    -- a part with the counts behind it joins the branch so far
    let part (pattern : Pattern) (rest : List Char) : Except MatchFault (Pattern × List Char) := do
      let (pattern, rest) ← readRepeats (rest.length + 1) pattern rest
      let whole : Pattern := match soFar with
        | some soFar => .sequence soFar pattern
        | none => pattern
      readChoices fuel earlier (some whole) depth rest
    match chars with
    | [] =>
      if 0 < depth then .error .unclosed
      else
        match all, earlier with
        | some pattern, _ => .ok (pattern, [])
        | none, none => .ok (.empty, [])
        | none, some _ => .error .missingOperand
    | ')' :: rest =>
      -- a closing bracket that closes nothing is a letter
      if depth = 0 then part (.letter ')') rest
      else
        match all with
        | some pattern => .ok (pattern, rest)
        | none => .error .missingOperand
    | '|' :: rest =>
      match all with
      | some pattern => readChoices fuel (some pattern) none depth rest
      | none =>
        if 0 < depth ∧ earlier.isNone then readChoices fuel (some .empty) none depth rest
        else .error .missingOperand
    | '(' :: rest => do
      let (pattern, rest) ← readChoices fuel none none (depth + 1) rest
      part (.group 0 pattern) rest
    | '*' :: rest | '+' :: rest | '?' :: rest =>
      if soFar.isNone then .error .missingOperand else part (.letter '*') rest
    | '[' :: rest => do
      let (pattern, rest) ← readLetterSet rest
      part pattern rest
    | '.' :: rest => part .anyLetter rest
    | '^' :: rest => part .start rest
    | '$' :: rest => part .finish rest
    | '\\' :: rest =>
      match escape? rest, rest with
      | some (c, rest), _ => part (.letter c) rest
      | none, c :: rest => part (.letter c) rest
      | none, [] => part (.letter '\\') []
    | c :: rest => part (.letter c) rest

/-- Reads a pattern. -/
def readPattern (chars : List Char) : Except MatchFault Pattern :=
  (readChoices (chars.length + 2) none none 0 chars).map (·.1)

/-! ### Matches -/

/-- The first match at a place or behind it. -/
def firstMatch? (pattern : Pattern) (place : Place) : Option (Place × Place) :=
  (pattern.find? id (place.rest.length + 1) { place with groups := [] }).map fun (first, last) =>
    ({ first with groups := [] }, { last with groups := [] })

/-- Whether a pattern is found in a text. -/
def isMatch (pattern : Pattern) (text : List Char) : Bool :=
  (firstMatch? pattern ⟨[], text, []⟩).isSome

end Awk

end Shell

end TreeOutline
