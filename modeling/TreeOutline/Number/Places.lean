import TreeOutline.Number.Shortest

namespace TreeOutline

/-!
# Decimals with a number of places

* `fixedText` — a quotient with so many digits behind the point.
* `scientificDigits` — its first digits, with the exponent of ten of the first one.
* `scientificText`, `generalText` — a quotient with an exponent, and with one only where that is
  shorter.
-/

/-- A quotient with so many digits behind the point, the last one rounded. -/
def fixedText (keepPoint : Bool) (num den places : Nat) : List Char :=
  let digits := Nat.toDigits 10 (roundHalfEven (num * Nat.pow 10 places) den)
  let digits := List.replicate (places + 1 - digits.length) '0' ++ digits
  let whole := digits.take (digits.length - places)
  if places = 0 ∧ ¬ keepPoint then whole else whole ++ '.' :: digits.drop whole.length

/-- The first digits of a quotient, as many as `places` and one more, the last one rounded; and the
exponent of ten of the first one. -/
def scientificDigits (num den places : Nat) : List Char × Int :=
  if num = 0 then (List.replicate (places + 1) '0', 0)
  else
    let exponent := Binary64.decimalMagnitude num den - 1
    let shift := (places : Int) - exponent
    let (n, d) := if 0 ≤ shift then (num * Nat.pow 10 shift.toNat, den)
      else (num, den * Nat.pow 10 (-shift).toNat)
    let digits := Nat.toDigits 10 (roundHalfEven n d)
    if digits.length = places + 1 then (digits, exponent)
    else (digits.take (places + 1), exponent + 1)

/-- Digits with a point behind the first one and an exponent of at least two digits. -/
def withExponent (keepPoint : Bool) (mark : Char) (digits : List Char) (exponent : Int) :
    List Char :=
  let fraction := digits.drop 1
  let power := Nat.toDigits 10 exponent.natAbs
  digits.take 1 ++ (if fraction.isEmpty ∧ ¬ keepPoint then [] else '.' :: fraction) ++
    mark :: (if exponent < 0 then '-' else '+') ::
      (List.replicate (2 - power.length) '0' ++ power)

/-- A quotient with one digit in front of the point, so many behind it, and an exponent. -/
def scientificText (keepPoint : Bool) (mark : Char) (num den places : Nat) : List Char :=
  let (digits, exponent) := scientificDigits num den places
  withExponent keepPoint mark digits exponent

/-- A text without zeros at the end of its fraction, and without a point that nothing follows. -/
def withoutZeros (text : List Char) : List Char :=
  if text.contains '.' then
    let kept := (text.reverse.dropWhile (· = '0')).reverse
    if kept.getLast? = some '.' then kept.dropLast else kept
  else text

/-- A quotient with so many digits, at least one: with an exponent where that of the first digit is
below `-4` or not below the number of digits.  Zeros at the end go unless `keepPoint`. -/
def generalText (keepPoint : Bool) (mark : Char) (num den count : Nat) : List Char :=
  let count := max count 1
  let (digits, exponent) := scientificDigits num den (count - 1)
  if exponent < -4 ∨ (count : Int) ≤ exponent then
    let kept := if keepPoint then digits
      else digits.take 1 ++ ((digits.drop 1).reverse.dropWhile (· = '0')).reverse
    withExponent keepPoint mark kept exponent
  else
    let text := fixedText keepPoint num den ((count : Int) - 1 - exponent).toNat
    if keepPoint then text else withoutZeros text

end TreeOutline
