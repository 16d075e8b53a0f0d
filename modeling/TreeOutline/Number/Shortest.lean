import TreeOutline.Number.Binary64

namespace TreeOutline

/-!
# The shortest decimal that reads back

* `Decimal` — digits and the place of the point.
* `Binary64.shortest` — of all decimals that round to a double, one with the fewest digits; of
  those the nearest to the double, and of two equally near the one with the even last digit.
* `Decimal.jsonText` — the spelling of a number with a fraction in a document.
* `Decimal.plainText` — the spelling without an exponent.
-/

/-- The decimal `0.d₁d₂…dₙ · 10 ^ point`, without trailing zeros. -/
structure Decimal where
  digits : List Char
  point : Int
deriving DecidableEq, Repr

namespace Decimal

/-- The decimal `value · 10 ^ exponent`, its trailing zeros dropped. -/
def ofScaled (value : Nat) (exponent : Int) : Decimal :=
  let digits := Nat.toDigits 10 value
  ⟨(digits.reverse.dropWhile (· == '0')).reverse, digits.length + exponent⟩

end Decimal

namespace Binary64

/-- The reals that round to a finite double, as numerators over a common denominator: the lower
end, the value, the upper end. -/
structure Interval where
  low : Nat
  value : Nat
  high : Nat
  den : Nat
  /-- Whether the ends round to the double as well: they do when its mantissa is even. -/
  closed : Bool

/-- Halfway to the neighbours.  Below a power of two the lower neighbour is half as far away. -/
def interval (mantissa : Nat) (exponent : Int) : Interval :=
  let narrow := 2 * mantissa = mantissaBound ∧ leastExponent < exponent
  let (num, den) := ratioOf 1 (exponent - 2)
  ⟨(4 * mantissa - (if narrow then 1 else 2)) * num, 4 * mantissa * num,
   (4 * mantissa + 2) * num, den, mantissa % 2 == 0⟩

/-- Whether `candidate · 10 ^ place` lies in the interval. -/
def Interval.holds (i : Interval) (candidate : Nat) (place : Int) : Bool :=
  let (n, d) := if 0 ≤ place then (candidate * Nat.pow 10 place.toNat * i.den, 1)
    else (candidate * i.den, Nat.pow 10 (-place).toNat)
  if i.closed then i.low * d ≤ n && n ≤ i.high * d else i.low * d < n && n < i.high * d

/-- The two neighbours of the value on the grid of multiples of `10 ^ place`, and which of them
is nearer: the quotient and the rest of the value over the grid's unit. -/
def Interval.onGrid (i : Interval) (place : Int) : Nat × Nat × Nat :=
  let (n, d) := if 0 ≤ place then (i.value, i.den * Nat.pow 10 place.toNat)
    else (i.value * Nat.pow 10 (-place).toNat, i.den)
  (n / d, n % d, d)

/-- The decimal on the grid `10 ^ place` that reads back, if there is one. -/
def Interval.decimalAt? (i : Interval) (place : Int) : Option Nat :=
  let (low, rest, unit) := i.onGrid place
  match i.holds low place, i.holds (low + 1) place with
  | true, true =>
    if 2 * rest < unit then some low
    else if unit < 2 * rest then some (low + 1)
    else some (low + low % 2)
  | true, false => some low
  | false, true => some (low + 1)
  | false, false => none

/-- The number of decimal digits before the point of `num / den`, or minus the number of zeros
after it. -/
def decimalMagnitude (num den : Nat) : Int :=
  if den ≤ num then (Nat.toDigits 10 (num / den)).length
  else 1 - (Nat.toDigits 10 ((den - 1) / num)).length

/-- Tries grids with one digit more each time. -/
def Interval.search (i : Interval) (magnitude : Int) : (tries digits : Nat) → Decimal
  | 0, digits =>
    let place := magnitude - digits
    Decimal.ofScaled (i.onGrid place).1 place
  | tries + 1, digits =>
    let place := magnitude - digits
    match i.decimalAt? place with
    | some value => Decimal.ofScaled value place
    | none => i.search magnitude tries (digits + 1)

/-- The shortest decimal that reads back as a finite double other than zero; seventeen digits
always suffice. -/
def shortest (mantissa : Nat) (exponent : Int) : Decimal :=
  let i := interval mantissa exponent
  i.search (decimalMagnitude i.value i.den) 17 1

end Binary64

namespace Decimal

/-- The decimal with its point among the digits, at least one digit on each side of it when
`keepPoint` holds. -/
def positional (d : Decimal) (keepPoint : Bool) : List Char :=
  let n := d.digits.length
  if d.point ≤ 0 then '0' :: '.' :: List.replicate (-d.point).toNat '0' ++ d.digits
  else if n ≤ d.point.toNat then
    d.digits ++ List.replicate (d.point.toNat - n) '0' ++ (if keepPoint then ['.', '0'] else [])
  else d.digits.take d.point.toNat ++ '.' :: d.digits.drop d.point.toNat

/-- The decimal with one digit before the point and the exponent of ten after an `e`. -/
def scientific (d : Decimal) : List Char :=
  let fraction := d.digits.drop 1
  let exponent := d.point - 1
  d.digits.take 1 ++ (if fraction.isEmpty then [] else '.' :: fraction) ++
    'e' :: (if exponent < 0 then '-' else '+') :: Nat.toDigits 10 exponent.natAbs

/-- Documents write a decimal positionally from `10 ^ -5` up to below `10 ^ 16`, with at least
one digit after the point. -/
def jsonText (d : Decimal) : List Char :=
  if -5 < d.point ∧ d.point ≤ 16 then d.positional true else d.scientific

/-- Every decimal written positionally, a whole number without a point. -/
def plainText (d : Decimal) : List Char := d.positional false

end Decimal

namespace Binary64

/-- A minus sign in front of negative values, zero among them. -/
def signed (negative : Bool) (text : List Char) : List Char :=
  if negative then '-' :: text else text

/-- The text of a double in a document, which has no word for infinities and for no number. -/
def jsonText : Binary64 → Option String
  | .finite s 0 _ => some (String.ofList (signed s ['0', '.', '0']))
  | .finite s m q => some (String.ofList (signed s (shortest m q).jsonText))
  | _ => none

/-- The text of a double in settings: no exponent, and a whole number has no point. -/
def plainText : Binary64 → String
  | .finite s 0 _ => String.ofList (signed s ['0'])
  | .finite s m q => String.ofList (signed s (shortest m q).plainText)
  | .infinite s => String.ofList (signed s ['i', 'n', 'f'])
  | .nan => "NaN"

end Binary64

end TreeOutline
