import TreeOutline.Number.Width

namespace TreeOutline

/-!
# Integers on a command line

* `readInteger` — an integer in a range, or what is wrong with its text.
-/

/-- The integer that decimal digits stand for under a sign.  The digits are read one by one: the
first one that is no digit, or makes the integer too large, decides. -/
def readDigits (negative : Bool) (digits : List Char) : Except String Int :=
  let ⟨least, greatest⟩ := IntRange.signed64
  digits.foldlM (fun n c =>
    if ¬ c.isDigit then .error "invalid digit found in string"
    else
      let digit : Int := c.toNat - '0'.toNat
      let next := if negative then 10 * n - digit else 10 * n + digit
      if greatest < next then .error "number too large to fit in target type"
      else if next < least then .error "number too small to fit in target type"
      else .ok next) 0

/-- The integer that a text spells, with a sign perhaps, if it lies in a range. -/
def readInteger (range : IntRange) (text : String) : Except String Int := do
  let n ← match text.toList with
    | [] => .error "cannot parse integer from empty string"
    | ['-'] | ['+'] => .error "invalid digit found in string"
    | '-' :: digits => readDigits true digits
    | '+' :: digits => readDigits false digits
    | digits => readDigits false digits
  if range.holds n then .ok n
  else .error s!"{n} is not in {range.least}..={range.greatest}"

end TreeOutline
