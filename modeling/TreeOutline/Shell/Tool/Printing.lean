import TreeOutline.Shell.Tool.Formats

namespace TreeOutline

/-!
# Tools that print their words

* `Shell.echo`, `Shell.echoProgram` — words with blanks between them.
* `Shell.seq`, `Shell.yes` — numbers (`Shell.mem_numbersFrom_iff`), and the same words over and
  over.
* `Shell.factor` — prime factors; they multiply to the number (`Shell.prod_primeFactors`).
-/

namespace Shell

/-! ### Plain words -/

/-- Prints its words, with escapes replaced; `-n` leaves out the end of the line. -/
def echo (task : Task) : Report :=
  let (newline, words) := match task.words with
    | "-n" :: words => (false, words)
    | words => (true, words)
  let text := (" ".intercalate words).toList
  let (text, goesOn) := unescape false (text.length + 1) text
  ⟨if goesOn ∧ newline then text ++ ['\n'] else text, [], 0, task.input⟩

/-- The same as a program of its own, which replaces escapes only with `-e`. -/
def echoProgram (task : Task) : Report :=
  let isOptions (word : String) : Bool :=
    match word.toList with
    | '-' :: letters => letters ≠ [] && letters.all fun c => c ∈ ['n', 'e', 'E']
    | _ => false
  let options := task.words.takeWhile isOptions
  let letters := options.flatMap fun word => word.toList.drop 1
  let escapes : Bool := (letters.reverse.find? fun c => c = 'e' ∨ c = 'E') == some 'e'
  let text := (" ".intercalate (task.words.drop options.length)).toList
  let (text, goesOn) := if escapes then unescape true (text.length + 1) text else (text, true)
  ⟨if goesOn ∧ ¬ letters.contains 'n' then text ++ ['\n'] else text, [], 0, task.input⟩

/-! ### Numbers -/

/-- A decimal of a word: the digits of its whole part and its fraction as one number, and how many
of them are behind the point. -/
def scaledDecimal? (word : String) : Option (Int × Nat) :=
  let (negative, chars) := leadingSign word.toList
  let (whole, places, rest) := leadingDigits Char.isDigit chars
  if (whole ++ places).isEmpty ∨ ¬ rest.isEmpty then none
  else
    let n : Int := digitsNumber 10 (whole ++ places)
    some (if negative then -n else n, places.length)

/-- A decimal with so many places. -/
def scaledText (places : Nat) (n : Int) : List Char :=
  (if n < 0 then ['-'] else []) ++ fixedText false n.natAbs (Nat.pow 10 places) places

/-- The numbers from one to another. -/
def numbersFrom (first step last : Int) : List Int :=
  if step = 0 then []
  else
    let count := (last - first).fdiv step + 1
    (List.range count.toNat).map fun (i : Nat) => first + step * (i : Int)

/-- **The numbers from one to another** are those between them that are whole steps behind the first
one. -/
theorem mem_numbersFrom_iff {first step last n : Int} (hstep : 0 < step) :
    n ∈ numbersFrom first step last ↔ first ≤ n ∧ n ≤ last ∧ step ∣ n - first := by
  have hne : step ≠ 0 := Int.ne_of_gt hstep
  have hcount := Int.ediv_mul_le (last - first) hne
  have hnext := Int.lt_ediv_add_one_mul_self (last - first) hstep
  rw [numbersFrom, if_neg hne, Int.fdiv_eq_ediv_of_nonneg _ (Int.le_of_lt hstep)]
  simp only [List.mem_map, List.mem_range]
  constructor
  · rintro ⟨i, hi, rfl⟩
    have hi : (i : Int) ≤ (last - first) / step := by omega
    have hle := Int.le_trans (Int.mul_le_mul_of_nonneg_right hi (Int.le_of_lt hstep)) hcount
    have hpos := Int.mul_nonneg (Int.le_of_lt hstep) (Int.natCast_nonneg i)
    refine ⟨by omega, ?_, ?_⟩
    · rw [Int.mul_comm] at hle
      omega
    · rw [Int.add_comm, Int.add_sub_cancel]
      exact Int.dvd_mul_right step i
  · rintro ⟨hfirst, hlast, k, hk⟩
    have hk0 : 0 ≤ k := by
      refine Int.le_of_mul_le_mul_left ?_ hstep
      omega
    refine ⟨k.toNat, ?_, ?_⟩
    · have hkle : k ≤ (last - first) / step := by
        refine Int.le_ediv_of_mul_le hstep ?_
        rw [Int.mul_comm]
        omega
      omega
    · rw [Int.toNat_of_nonneg hk0]
      omega

/-- The options of `seq` in front of its numbers. -/
def seqOptions : List String → List (Char × String) × List String
  | "-w" :: words =>
    let (options, words) := seqOptions words
    (('w', "") :: options, words)
  | "--" :: words => ([], words)
  | "-s" :: value :: words =>
    let (options, words) := seqOptions words
    (('s', value) :: options, words)
  | "-f" :: value :: words =>
    let (options, words) := seqOptions words
    (('f', value) :: options, words)
  | word :: words =>
    match word.toList with
    | '-' :: 's' :: value => ([('s', String.ofList value)], words)
    | '-' :: 'f' :: value => ([('f', String.ofList value)], words)
    | _ => ([], word :: words)
  | [] => ([], [])

/-- A number by a format that has one directive. -/
def numberInFormat (format : List Char) (x : Binary64) : List Char :=
  match format with
  | [] => []
  | '%' :: '%' :: rest => '%' :: numberInFormat rest x
  | '%' :: rest =>
    match directive? rest with
    | some (d, rest) => ((d.real? x).getD []) ++ rest
    | none => '%' :: rest
  | c :: rest => c :: numberInFormat rest x

/-- Prints the numbers from one to another with as many places as the first one and the step have;
`-s` names what stands between them, `-w` makes them equally wide, and `-f` gives a format. -/
def seq (task : Task) : Report :=
  let (options, words) := seqOptions task.words
  let answer (first step last : Int × Nat) : Report :=
    let places := max first.2 step.2
    let all := max places last.2
    let scale (n : Int × Nat) : Int := n.1 * (Nat.pow 10 (all - n.2) : Nat)
    let cut (n : Int) : Int := n / (Nat.pow 10 (all - places) : Nat)
    let numbers := (numbersFrom (scale first) (scale step) (scale last)).map cut
    let texts := numbers.map fun n =>
      match optionValue? options 'f' with
      | some format =>
        numberInFormat format.toList (.ofRatio (n < 0) n.natAbs (Nat.pow 10 places))
      | none => scaledText places n
    let width := if hasOption options 'w' then (texts.map List.length).foldl max 0 else 0
    let texts := texts.map fun text =>
      let zeros := List.replicate (width - text.length) '0'
      match text with
      | '-' :: digits => '-' :: zeros ++ digits
      | text => zeros ++ text
    let joint := ((optionValue? options 's').getD "\n").toList
    .answering task (String.ofList
      (if texts.isEmpty then [] else joint.intercalate texts ++ ['\n']))
  match words, words.find? fun word => (scaledDecimal? word).isNone with
  | [], _ => .misused task "seq" 1 "missing operand"
  | _, some word => .misused task "seq" 1 s!"invalid floating point argument: '{word}'"
  | words, none =>
    match words.filterMap scaledDecimal? with
    | [last] => answer (1, 0) (1, 0) last
    | [first, last] => answer first (1, 0) last
    | [first, step, last] =>
      if step.1 = 0 then
        let zero := (words[1]?).getD "0"
        .misused task "seq" 1 s!"invalid Zero increment value: '{zero}'"
      else answer first step last
    | _ =>
      let extra := (words[3]?).getD ""
      .misused task "seq" 1 s!"extra operand '{extra}'"

/-- The prime factors of a number, from a least one on. -/
def primeFactors : (fuel : Nat) → (least n : Nat) → List Nat
  | 0, _, n => [n]
  | fuel + 1, least, n =>
    if n ≤ 1 then []
    else if n < least * least then [n]
    else if n % least = 0 then least :: primeFactors fuel least (n / least)
    else primeFactors fuel (if least = 2 then 3 else least + 2) n

/-- **The prime factors of a number multiply to it**, also where the search ends early. -/
theorem prod_primeFactors {fuel least n : Nat} (hn : 0 < n) :
    (primeFactors fuel least n).foldr (· * ·) 1 = n := by
  induction fuel generalizing least n with
  | zero => exact Nat.mul_one n
  | succ fuel ih =>
    rw [primeFactors]
    split
    next hle => exact (Nat.le_antisymm hle hn).symm
    next =>
      split
      next => exact Nat.mul_one n
      next =>
        split
        next hdvd =>
          have hdvd := Nat.dvd_of_mod_eq_zero hdvd
          have hpos : 0 < n / least := Nat.div_pos (Nat.le_of_dvd hn hdvd)
            (Nat.pos_of_dvd_of_pos hdvd hn)
          rw [List.foldr_cons, ih hpos, Nat.mul_div_cancel' hdvd]
        next => exact ih hn

/-- Prints numbers with their prime factors. -/
def factor (task : Task) : Report :=
  let words := if ¬ task.words.isEmpty then task.words else
    let blanks := task.input.map fun c => if isSpaceByte c then ' ' else c
    ((splitAtChar ' ' blanks).filter (· ≠ [])).map String.ofList
  let line (word : String) : Option (List Char) := (natural? word).map fun n =>
    (s!"{n}:" ++ "".intercalate ((primeFactors 2000000 2 n).map fun p => s!" {p}")).toList
  let complaints := words.flatMap fun word =>
    if (line word).isSome then []
    else s!"factor: '{word}' is not a valid positive integer\n".toList
  ⟨joinLines (words.filterMap line), complaints, if complaints.isEmpty then 0 else 1,
    if task.words.isEmpty then [] else task.input⟩

/-- Prints the same words over and over, as long as whatever reads them may want them. -/
def yes (task : Task) : Report :=
  let line := if task.words.isEmpty then "y\n" else " ".intercalate task.words ++ "\n"
  .answering task ("".intercalate (List.replicate 20000 line))

end Shell

end TreeOutline
