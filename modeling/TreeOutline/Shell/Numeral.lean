import TreeOutline.Number.Width

namespace TreeOutline

/-!
# Numbers in scripts

* `Shell.digitsNumber` — the number of digits in a base.
* `Shell.wideNumber?`, `Shell.leadingNumber?` — the number at the start of a text, in base eight,
  ten or sixteen.
* `Shell.wholeNumber?` — the number that a whole text writes.
* `Shell.decimal?` — the same in base ten, behind a sign that may be there.
* `Shell.quantity?` — a number with a unit behind it.
-/

namespace Shell

/-- The value of a digit. -/
def digitValue (c : Char) : Nat :=
  if c.isDigit then c.toNat - '0'.toNat else c.toLower.toNat - 'a'.toNat + 10

/-- The number that digits of a base write. -/
def digitsNumber (base : Nat) (digits : List Char) : Nat :=
  digits.foldl (fun n c => base * n + digitValue c) 0

/-- The number that digits of a base write, as far as it fits. -/
def numberOfDigits (base : Nat) (digits : List Char) : Int :=
  min (digitsNumber base digits : Int) IntRange.signed64.greatest

/-- A number that does not fit stops at the greatest one. -/
theorem numberOfDigits_le (base : Nat) (digits : List Char) :
    numberOfDigits base digits ≤ IntRange.signed64.greatest := Int.min_le_right ..

/-- Whether a character is a digit of base eight. -/
def isOctal (c : Char) : Bool := '0' ≤ c && c ≤ '7'

/-- Whether a character is a digit of base sixteen. -/
def isHexDigit (c : Char) : Bool := c.isDigit || ('a' ≤ c.toLower && c.toLower ≤ 'f')

/-- A decimal digit is less than ten. -/
theorem digitValue_lt_of_isDigit {c : Char} (h : c.isDigit = true) : digitValue c < 10 := by
  have hlast : c.toNat ≤ '9'.toNat := by
    simp only [Char.isDigit, Bool.and_eq_true, decide_eq_true_eq] at h
    exact h.2
  rw [digitValue, if_pos h]
  exact Nat.lt_of_le_of_lt (Nat.sub_le_sub_right hlast _) (by decide)

/-- An octal digit is less than eight. -/
theorem digitValue_lt_of_isOctal {c : Char} (h : isOctal c = true) : digitValue c < 8 := by
  simp only [isOctal, Bool.and_eq_true, decide_eq_true_eq] at h
  have hdigit : c.isDigit = true := by
    simp only [Char.isDigit, Bool.and_eq_true, decide_eq_true_eq]
    exact ⟨h.1, Nat.le_trans (show c.toNat ≤ '7'.toNat from h.2) (by decide)⟩
  rw [digitValue, if_pos hdigit]
  exact Nat.lt_of_le_of_lt (Nat.sub_le_sub_right (show c.toNat ≤ '7'.toNat from h.2) _) (by decide)

/-- Whether a minus sign stands at the start, and what follows a sign that may be there. -/
def leadingSign : List Char → Bool × List Char
  | '-' :: rest => (true, rest)
  | '+' :: rest => (false, rest)
  | rest => (false, rest)

/-- What follows a sign is the end of the text. -/
theorem leadingSign_suffix (chars : List Char) : (leadingSign chars).2 <:+ chars := by
  unfold leadingSign
  split
  · exact List.suffix_cons '-' _
  · exact List.suffix_cons '+' _
  · exact List.suffix_rfl

/-- The number at the start: in base sixteen behind `0x`, in base eight behind `0`. -/
def wideNumber? (chars : List Char) : Option (Nat × List Char) :=
  let ofBase (base : Nat) (p : Char → Bool) (chars : List Char) : Nat × List Char :=
    (digitsNumber base (chars.takeWhile p), chars.dropWhile p)
  match chars with
  | '0' :: 'x' :: d :: rest =>
    some (if isHexDigit d then ofBase 16 isHexDigit (d :: rest) else (0, 'x' :: d :: rest))
  | '0' :: rest => some (ofBase 8 isOctal ('0' :: rest))
  | c :: rest => if c.isDigit then some (ofBase 10 Char.isDigit (c :: rest)) else none
  | [] => none

/-- A number is read from the start of a text. -/
theorem suffix_of_wideNumber? {chars rest : List Char} {n : Nat}
    (h : wideNumber? chars = some (n, rest)) : rest <:+ chars := by
  unfold wideNumber? at h
  split at h
  next d tail =>
    split at h
    · cases h; exact (List.dropWhile_suffix _).trans ⟨['0', 'x'], rfl⟩
    · cases h; exact ⟨['0'], rfl⟩
  next tail hnot => cases h; exact List.dropWhile_suffix _
  next c tail _ _ =>
    split at h
    · cases h; exact List.dropWhile_suffix _
    · exact absurd h (by simp)
  next => exact absurd h (by simp)

/-- The same number as far as it fits. -/
def leadingNumber? (chars : List Char) : Option (Int × List Char) :=
  (wideNumber? chars).map fun (n, rest) => (min (n : Int) IntRange.signed64.greatest, rest)

/-- What is read as far as it fits is a number of 64 bits. -/
theorem holds_of_leadingNumber? {chars rest : List Char} {n : Int}
    (h : leadingNumber? chars = some (n, rest)) : 0 ≤ n ∧ n ≤ IntRange.signed64.greatest := by
  obtain ⟨⟨m, left⟩, -, heq⟩ := Option.map_eq_some_iff.1 h
  cases heq
  exact ⟨Int.le_min.2 ⟨Int.natCast_nonneg m, by decide⟩, Int.min_le_right _ _⟩

/-- Skips blanks and ends of lines. -/
def skipSpace (chars : List Char) : List Char :=
  chars.dropWhile fun c => c == ' ' || c == '\t' || c == '\n'

/-- The number that a text holds and nothing else; an empty text is zero. -/
def wholeNumber? (text : String) : Option Int :=
  let chars := skipSpace text.toList
  let (negative, chars) := leadingSign chars
  match leadingNumber? chars with
  | some (n, rest) =>
    if (skipSpace rest).isEmpty then some (if negative then -n else n) else none
  | none => if (skipSpace text.toList).isEmpty then some 0 else none

/-- The number of a whole text is one of 64 bits. -/
theorem holds_of_wholeNumber? {text : String} {n : Int} (h : wholeNumber? text = some n) :
    IntRange.signed64.holds n = true := by
  rw [IntRange.holds_eq_true_iff]
  rw [wholeNumber?] at h
  dsimp only at h
  split at h
  next m rest hread =>
    have hm := holds_of_leadingNumber? hread
    have hleast : IntRange.signed64.least = -IntRange.signed64.greatest - 1 := rfl
    split at h
    · cases h
      split <;> omega
    · exact absurd h (by simp)
  next =>
    split at h
    · cases h; decide
    · exact absurd h (by simp)

/-- The number that a text writes in base ten between blanks, behind a sign that may be there. -/
def decimal? (text : String) : Option Int :=
  let chars := skipSpace text.toList
  let (negative, chars) := leadingSign chars
  let digits := chars.takeWhile Char.isDigit
  if digits.isEmpty ∨ ¬ (skipSpace (chars.drop digits.length)).isEmpty then none
  else
    let n := numberOfDigits 10 digits
    some (if negative then -n else n)

/-- The natural number that a text writes in digits and nothing else. -/
def natural? (text : String) : Option Nat :=
  if text ≠ "" ∧ text.toList.all Char.isDigit then text.toNat? else none

/-- The natural number in digits at the start of a text, if there is one, and the rest. -/
def leadingNat (chars : List Char) : Option Nat × List Char :=
  let digits := chars.takeWhile Char.isDigit
  (natural? (String.ofList digits), chars.drop digits.length)

/-- A number in digits is read from the start of a text. -/
theorem leadingNat_suffix (chars : List Char) : (leadingNat chars).2 <:+ chars :=
  List.drop_suffix _ _

/-! ### Quantities -/

/-- Letters for the powers of a thousand. -/
def unitLetters : List Char := ['K', 'M', 'G', 'T', 'P', 'E', 'Z', 'Y', 'R', 'Q']

/-- How much a unit stands for: `b` for 512, a letter for a power of 1024, or with `B` behind it for
one of 1000; the two lowest ones may be small letters. -/
def unitSize? : List Char → Option Nat
  | [] => some 1
  | ['b'] => some 512
  | letter :: more =>
    let letter := if letter = 'k' ∨ letter = 'm' then letter.toUpper else letter
    let base? : Option Nat := match more with
      | [] | ['i', 'B'] => some 1024
      | ['B'] | ['D'] => some 1000
      | _ => none
    match unitLetters.idxOf? letter, base? with
    | some i, some base => some (Nat.pow base (i + 1))
    | _, _ => none

/-- Why a text is no quantity. -/
inductive QuantityFault where
  | malformed
  | tooLarge
deriving DecidableEq, Repr

/-- What is said behind a quantity that cannot be used. -/
def QuantityFault.suffix : QuantityFault → String
  | .malformed => ""
  | .tooLarge => ": Value too large for defined data type"

/-- A number behind blanks, with a unit behind it; a unit without a number counts once. -/
def quantity? (text : String) : Except QuantityFault Nat :=
  let chars := text.toList.dropWhile fun c => c == ' ' || ('\t' ≤ c && c ≤ '\r')
  let chars := match chars with
    | '+' :: rest => rest
    | rest => rest
  let digits := chars.takeWhile Char.isDigit
  match (natural? (String.ofList digits)), unitSize? (chars.drop digits.length) with
  | _, none => .error .malformed
  | none, some size => if chars.isEmpty then .error .malformed else .ok size
  | some n, some size =>
    if n * size ≤ IntRange.unsigned64.greatest then .ok (n * size) else .error .tooLarge

end Shell

end TreeOutline
