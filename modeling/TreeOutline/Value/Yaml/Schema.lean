import TreeOutline.Number.Width
import TreeOutline.Value.Basic
import TreeOutline.Value.Yaml.Node

namespace TreeOutline

/-!
# What YAML scalars stand for

* `Yaml.wholeNumber?`, `Yaml.realNumber?` — the numbers among the plain scalars.
* `Yaml.plainValue?` — the value of a scalar by its spelling alone.
* `Yaml.scalarValue?` — the value of a scalar by its tag and style.
-/

namespace Yaml

/-- The digits of a number in a base up to sixteen; there has to be one. -/
def digits? (base : Nat) (text : List Char) : Option Nat :=
  let digit? (c : Char) : Option Nat :=
    let value :=
      if c.isDigit then c.toNat - '0'.toNat
      else if 'a' ≤ c ∧ c ≤ 'f' then c.toNat - 'a'.toNat + 10
      else if 'A' ≤ c ∧ c ≤ 'F' then c.toNat - 'A'.toNat + 10
      else base
    if value < base then some value else none
  if text.isEmpty then none
  else text.foldlM (fun n c => (digit? c).map (base * n + ·)) 0

/-- A number without its sign: decimal, or in the base that its first two letters name. -/
def magnitude? : List Char → Option Nat
  | '0' :: 'x' :: rest => digits? 16 rest
  | '0' :: 'o' :: rest => digits? 8 rest
  | '0' :: 'b' :: rest => digits? 2 rest
  | text => digits? 10 text

/-- Splits off a sign; `true` is the minus. -/
def splitSign : List Char → Bool × List Char
  | '-' :: rest => (true, rest)
  | '+' :: rest => (false, rest)
  | text => (false, text)

/-- Whether the text is a decimal number that is spelled with a leading zero, as identifiers are. -/
def hasLeadingZero (text : List Char) : Bool :=
  match (splitSign text).2 with
  | '0' :: rest => !rest.isEmpty && rest.all Char.isDigit
  | _ => false

/-- The whole number that a text spells. -/
def wholeNumber? (text : List Char) : Option Int :=
  if hasLeadingZero text then none
  else
    let (negative, rest) := splitSign text
    (magnitude? rest).map fun n => if negative then -n else n

/-- The number that decimal digits with a point and an exponent spell, either of which may be
missing. -/
def decimal? (text : List Char) : Option (Nat × Int) := do
  let isExponent (c : Char) : Bool := c == 'e' || c == 'E'
  let mantissa := text.takeWhile (!isExponent ·)
  let whole := mantissa.takeWhile (· ≠ '.')
  let fraction := (mantissa.dropWhile (· ≠ '.')).drop 1
  let digits ← digits? 10 (whole ++ fraction)
  let exponent : Int ← match text.dropWhile (!isExponent ·) with
    | [] => some 0
    | _ :: power => do
      let (negative, power) := splitSign power
      let n ← digits? 10 power
      some (if negative then -(n : Int) else n)
  some (digits, exponent - fraction.length)

/-- The double that a text spells.  What lies beyond all doubles is no number. -/
def realNumber? (text : List Char) : Option Binary64 :=
  let (negative, rest) := splitSign text
  match String.ofList rest with
  | ".inf" | ".Inf" | ".INF" => some (.infinite negative)
  | ".nan" | ".NaN" | ".NAN" => if rest.length = text.length then some .nan else none
  | _ => do
    let (digits, exponent) ← decimal? rest
    let x := Binary64.ofDecimal negative digits exponent
    if x.isInfinite then none else some x

/-- Whether a text spells the absence of a value. -/
def isNull (text : String) : Bool := text ∈ ["~", "null", "Null", "NULL"]

/-- The truth value that a text spells. -/
def bool? (text : String) : Option Bool :=
  if text ∈ ["true", "True", "TRUE"] then some true
  else if text ∈ ["false", "False", "FALSE"] then some false
  else none

/-- The value of a double; the infinities and no number are null. -/
def ofDouble : Binary64 → Value
  | .finite negative mantissa exponent => .float (.finite negative mantissa exponent)
  | _ => .null

/-- The value of a whole number: of 64 bits, or else it is refused. -/
def ofWhole? (n : Int) : Option Value :=
  if IntRange.signed64.holds n || IntRange.unsigned64.holds n then some (.int n) else none

/-- The integers that 128 bits are enough for, with a sign or without one. -/
def wideRange : IntRange :=
  ⟨-0x80000000000000000000000000000000, 0xFFFFFFFFFFFFFFFFFFFFFFFFFFFFFFFF⟩

/-- The whole number that a text spells, if 128 bits are enough for it. -/
def boundedWhole? (text : List Char) : Option Int :=
  (wholeNumber? text).filter fun n => wideRange.holds n

/-- The value of a plain scalar.  A number that is too large for 64 bits but not for 128 is
refused; larger ones are doubles. -/
def plainValue? (text : String) : Option Value :=
  if text = "" ∨ isNull text then some .null
  else
    match bool? text, boundedWhole? text.toList with
    | some b, _ => some (.bool b)
    | none, some n => ofWhole? n
    | none, none =>
      if hasLeadingZero text.toList then some (.str text)
      else some (((realNumber? text.toList).map ofDouble).getD (.str text))

/-- The value of a scalar under its tag.  Tags of this program's own are refused, and unknown ones
leave a text. -/
def scalarValue? (tag : Option String) (isPlain : Bool) (text : String) : Option Value :=
  match tag with
  | none => if isPlain then plainValue? text else some (.str text)
  | some "tag:yaml.org,2002:bool" => (bool? text).map .bool
  | some "tag:yaml.org,2002:int" => (boundedWhole? text.toList).bind ofWhole?
  | some "tag:yaml.org,2002:float" => (realNumber? text.toList).map ofDouble
  | some "tag:yaml.org,2002:null" => if isNull text then some .null else none
  | some tag => if tag.startsWith "!" then none else some (.str text)

end Yaml

end TreeOutline
