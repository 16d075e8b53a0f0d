import TreeOutline.Number.Rounding

namespace TreeOutline

/-!
# Double-precision numbers

A double is kept as its exact value, so that reading, scaling and printing it are arithmetic on
natural numbers.

* `Binary64` — a finite value `± mantissa · 2 ^ exponent`, an infinity, or no number.
* `Binary64.ofRatio` — the double nearest to a quotient, ties to the even mantissa.
* `Binary64.ofDecimal` — the double nearest to `digits · 10 ^ exponent`.
* `Binary64.mul`, `Binary64.div` — one rounding each.
* `Binary64.ratio` — the exact quotient that a finite double stands for.
-/

/-- A double.  Of a finite one the mantissa has at most 53 bits and the exponent is at least
`-1074`; below 53 bits it is exactly `-1074`, so every double is written in one way. -/
inductive Binary64 where
  | finite (negative : Bool) (mantissa : Nat) (exponent : Int)
  | infinite (negative : Bool)
  | nan
deriving DecidableEq, Repr, Inhabited

namespace Binary64

/-- Mantissas stay below this, the number behind the last one of 53 bits. -/
def mantissaBound : Nat := 0x20000000000000

/-- The exponent of the smallest doubles. -/
def leastExponent : Int := -1074

/-- The exponent of the largest doubles. -/
def greatestExponent : Int := 971

/-- Positive zero. -/
def zero : Binary64 := .finite false 0 leastExponent

/-- The same value with the other sign. -/
def neg : Binary64 → Binary64
  | .finite s m q => .finite (!s) m q
  | .infinite s => .infinite (!s)
  | .nan => .nan

/-- Whether the value is a zero of either sign. -/
def isZero : Binary64 → Bool
  | .finite _ m _ => m == 0
  | _ => false

/-- Whether the value is an infinity. -/
def isInfinite : Binary64 → Bool
  | .infinite _ => true
  | _ => false

/-- `num / den` as a quotient in units of `2 ^ q`. -/
def inUnits (num den : Nat) (q : Int) : Nat × Nat :=
  if 0 ≤ q then (num, den * Nat.pow 2 q.toNat) else (num * Nat.pow 2 (-q).toNat, den)

/-- The exponent at which the quotient `num / den` fills the mantissa, but never below the
least one. -/
def fittingExponent (num den : Nat) : Int :=
  let high : Int := (num.log2 : Int) - (den.log2 : Int) - 52
  let (n, d) := inUnits num den high
  max (if 2 * n < d * mantissaBound then high - 1 else high) leastExponent

/-- The double nearest to `num / den`, of two equally near the one with the even mantissa;
beyond the largest double the infinity. -/
def ofRatio (negative : Bool) (num den : Nat) : Binary64 :=
  if num = 0 ∨ den = 0 then .finite negative 0 leastExponent
  else
    let q := fittingExponent num den
    let (n, d) := inUnits num den q
    let m := roundHalfEven n d
    let (m, q) := if m = mantissaBound then (m / 2, q + 1) else (m, q)
    if greatestExponent < q then .infinite negative else .finite negative m q

/-- The double nearest to a natural number. -/
def ofNat (n : Nat) : Binary64 := ofRatio false n 1

/-- The double nearest to an integer. -/
def ofInt (n : Int) : Binary64 := ofRatio (n < 0) n.natAbs 1

/-- The double nearest to `digits · 10 ^ exponent`.  Decimals far outside the range of doubles
are settled by their number of digits, without forming the power. -/
def ofDecimal (negative : Bool) (digits : Nat) (exponent : Int) : Binary64 :=
  if digits = 0 then .finite negative 0 leastExponent
  else
    let magnitude : Int := (digits.log2 : Int) * 30103 / 100000 + exponent
    if 400 < magnitude then .infinite negative
    else if magnitude < -400 then .finite negative 0 leastExponent
    else if 0 ≤ exponent then ofRatio negative (digits * Nat.pow 10 exponent.toNat) 1
    else ofRatio negative digits (Nat.pow 10 (-exponent).toNat)

/-- The quotient `mantissa · 2 ^ exponent` as numerator and denominator. -/
def ratioOf (mantissa : Nat) (exponent : Int) : Nat × Nat :=
  if 0 ≤ exponent then (mantissa * Nat.pow 2 exponent.toNat, 1)
  else (mantissa, Nat.pow 2 (-exponent).toNat)

/-- The exact absolute value of a finite double. -/
def ratio : Binary64 → Option (Nat × Nat)
  | .finite _ m q => some (ratioOf m q)
  | _ => none

/-- Whether the sign is negative. -/
def isNegative : Binary64 → Bool
  | .finite s _ _ => s
  | .infinite s => s
  | .nan => false

/-- The product, rounded once. -/
def mul (a b : Binary64) : Binary64 :=
  let sign := a.isNegative != b.isNegative
  match a.ratio, b.ratio with
  | some (n₁, d₁), some (n₂, d₂) => ofRatio sign (n₁ * n₂) (d₁ * d₂)
  | _, _ => if a = .nan ∨ b = .nan ∨ a.isZero ∨ b.isZero then .nan else .infinite sign

/-- The quotient, rounded once. -/
def div (a b : Binary64) : Binary64 :=
  let sign := a.isNegative != b.isNegative
  match a.ratio, b.ratio with
  | some (n₁, d₁), some (n₂, d₂) =>
    if n₂ = 0 then (if n₁ = 0 then .nan else .infinite sign) else ofRatio sign (n₁ * d₂) (d₁ * n₂)
  | none, some _ => if a = .nan then .nan else .infinite sign
  | some _, none => if b = .nan then .nan else .finite sign 0 leastExponent
  | none, none => .nan

/-- `10 ^ n` as a double. -/
def pow10 (n : Nat) : Binary64 := ofNat (Nat.pow 10 n)

@[simp] theorem neg_neg (x : Binary64) : x.neg.neg = x := by
  cases x <;> simp [neg]

@[simp] theorem ofDecimal_zero (negative : Bool) (exponent : Int) :
    ofDecimal negative 0 exponent = .finite negative 0 leastExponent := by
  simp [ofDecimal]

end Binary64

end TreeOutline
