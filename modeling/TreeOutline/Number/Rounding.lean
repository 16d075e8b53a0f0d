namespace TreeOutline

/-!
# Rounding a quotient

Exact rational arithmetic over `Nat`, used wherever a decimal has to become a machine number.

* `roundHalfEven` — the integer nearest to `num / den`; a half goes to the even neighbour.
* `roundHalfAway` — the integer nearest to `num / den`; a half goes up.
* `roundHalfEven_eq_of_dvd` — a quotient that is an integer is left alone.
-/

/-- The integer nearest to `num / den`, the even one of two equally near. -/
def roundHalfEven (num den : Nat) : Nat :=
  let low := num / den
  let rest := 2 * (num % den)
  if rest < den then low
  else if den < rest then low + 1
  else low + low % 2

/-- The integer nearest to `num / den`, the larger one of two equally near. -/
def roundHalfAway (num den : Nat) : Nat :=
  if 2 * (num % den) < den then num / den else num / den + 1

/-- An exact quotient needs no rounding. -/
theorem roundHalfEven_eq_of_dvd {num den : Nat} (h : 0 < den) (hd : den ∣ num) :
    roundHalfEven num den = num / den := by
  simp [roundHalfEven, Nat.mod_eq_zero_of_dvd hd, h]

/-- An exact quotient needs no rounding. -/
theorem roundHalfAway_eq_of_dvd {num den : Nat} (h : 0 < den) (hd : den ∣ num) :
    roundHalfAway num den = num / den := by
  simp [roundHalfAway, Nat.mod_eq_zero_of_dvd hd, h]

end TreeOutline
