import Mathlib
import TreeOutline.Shell.Tool.Encoding

namespace TreeOutline

/-!
# Digits by their places

* `Shell.placeValue` — the number that the values of digits stand for; `placeValue_append` moves
  what is written in front to higher places, and `placeValue_lt` says what digits have room for.
* `Shell.digitsNumber_append`, `Shell.digitsNumber_lt` — the same for digits that are written.
* `LetterCode.digits_placeValue`, `LetterCode.placeValue_digits` — digits are told from the number
  that they stand for, and stand for it as far as there is room.
-/

namespace Shell

/-! ### Numbers of digits -/

/-- The number that the values of digits in a base stand for, the highest one first. -/
def placeValue (base : Nat) (digits : List Nat) : Nat :=
  digits.foldl (fun n digit => base * n + digit) 0

/-- What was read before is moved up by the number of digits that follow. -/
theorem foldl_digits (base n : Nat) (digits : List Nat) :
    digits.foldl (fun n digit => base * n + digit) n =
      base ^ digits.length * n + placeValue base digits := by
  induction digits generalizing n with
  | nil => simp [placeValue]
  | cons digit rest ih =>
    rw [placeValue, List.foldl_cons, List.foldl_cons, ih, ih (base * 0 + digit),
      List.length_cons, Nat.pow_succ, Nat.mul_add, Nat.mul_add, Nat.mul_assoc]
    omega

/-- Digits behind others count by their places, and push those in front to higher ones. -/
theorem placeValue_append (base : Nat) (front back : List Nat) :
    placeValue base (front ++ back) =
      base ^ back.length * placeValue base front + placeValue base back := by
  rw [placeValue, List.foldl_append]
  exact foldl_digits base (placeValue base front) back

/-- **The number that digits stand for** is below the power of the base that they have room for. -/
theorem placeValue_lt {base : Nat} {digits : List Nat} (h : ∀ digit ∈ digits, digit < base) :
    placeValue base digits < base ^ digits.length := by
  induction digits with
  | nil => exact Nat.one_pos
  | cons digit rest ih =>
    have hfirst : digit + 1 ≤ base := h digit List.mem_cons_self
    have hrest := ih fun other hother => h other (List.mem_cons_of_mem digit hother)
    -- the first digit counts by the weight of all the digits behind it
    have hsplit := placeValue_append base [digit] rest
    have hroom := Nat.mul_le_mul_left (base ^ rest.length) hfirst
    rw [List.length_cons, Nat.pow_succ]
    rw [List.singleton_append, show placeValue base [digit] = digit by simp [placeValue]] at hsplit
    rw [Nat.mul_add] at hroom
    omega

/-- A number that is written is that of the values of its digits. -/
theorem digitsNumber_eq (base : Nat) (digits : List Char) :
    digitsNumber base digits = placeValue base (digits.map digitValue) := by
  rw [digitsNumber, placeValue, List.foldl_map]

/-- What is written in front is moved up by the number of digits that follow. -/
theorem digitsNumber_append (base : Nat) (front back : List Char) :
    digitsNumber base (front ++ back) =
      base ^ back.length * digitsNumber base front + digitsNumber base back := by
  simp only [digitsNumber_eq, List.map_append, placeValue_append, List.length_map]

/-- **The number that digits of a base write** is below the power that they have room for. -/
theorem digitsNumber_lt {base : Nat} {digits : List Char}
    (h : ∀ c ∈ digits, digitValue c < base) : digitsNumber base digits < base ^ digits.length := by
  rw [digitsNumber_eq, ← List.length_map digitValue]
  exact placeValue_lt (by simpa using h)

/-! ### Digits of numbers -/

namespace LetterCode

/-- The digits of a number stand for it as far as there is room. -/
theorem placeValue_digits (base count n : Nat) :
    placeValue base (digits base count n) = n % base ^ count := by
  induction count generalizing n with
  | zero => rw [Nat.pow_zero, Nat.mod_one]; rfl
  | succ count ih =>
    rw [digits, placeValue_append, ih, Nat.pow_succ', Nat.mod_mul]
    simp [placeValue]
    omega

/-- **Digits are told from the number that they stand for.** -/
theorem digits_placeValue {base : Nat} {values : List Nat} (h : ∀ value ∈ values, value < base) :
    digits base values.length (placeValue base values) = values := by
  -- the last digit comes off first, so the induction is on the digits from behind
  suffices hreversed : ∀ values : List Nat, (∀ value ∈ values, value < base) →
      digits base values.reverse.length (placeValue base values.reverse) = values.reverse by
    simpa using hreversed values.reverse (by simpa using h)
  intro values h
  induction values with
  | nil => rfl
  | cons value values ih =>
    have hvalue : value < base := h value List.mem_cons_self
    have hpos : 0 < base := Nat.zero_lt_of_lt hvalue
    have hlast : placeValue base [value] = value := by simp [placeValue]
    rw [List.reverse_cons, List.length_append, List.length_singleton, digits, placeValue_append,
      hlast, List.length_singleton, Nat.pow_one, Nat.mul_add_div hpos, Nat.div_eq_of_lt hvalue,
      Nat.add_zero, Nat.mul_add_mod, Nat.mod_eq_of_lt hvalue]
    rw [ih fun other hother => h other (List.mem_cons_of_mem value hother)]

/-- More digits begin with those of what is left without the last ones. -/
theorem digits_add (base front back n : Nat) :
    digits base (front + back) n = digits base front (n / base ^ back) ++ digits base back n := by
  induction back generalizing n with
  | zero => simp [digits]
  | succ back ih =>
    rw [← Nat.add_assoc, digits, ih, digits, Nat.div_div_eq_div_mul, Nat.pow_succ',
      List.append_assoc]

/-- The last digits of what a power of the base divides are zeros. -/
theorem digits_of_dvd {base count n : Nat} (h : base ^ count ∣ n) :
    digits base count n = List.replicate count 0 := by
  induction count generalizing n with
  | zero => rfl
  | succ count ih =>
    obtain ⟨m, rfl⟩ := h
    -- base zero has no digits to divide by, yet its powers are zero
    by_cases hbase : base = 0
    · subst hbase
      rw [digits, ih (by simp), List.replicate_succ']
      simp
    · have hpos := Nat.pos_of_ne_zero hbase
      rw [digits, Nat.pow_succ', Nat.mul_assoc, Nat.mul_div_cancel_left _ hpos,
        ih (Nat.dvd_mul_right _ _), Nat.mul_mod_right, List.replicate_succ']

end LetterCode

end Shell

end TreeOutline
