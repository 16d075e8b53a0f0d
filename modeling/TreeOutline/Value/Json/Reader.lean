import TreeOutline.Number.Width
import TreeOutline.Value.Basic

namespace TreeOutline

/-!
# Reading JSON documents

A reader works on the text that is left and returns what is left after it.  A failure carries
how many bytes were left at the place it points to, and turns into a line and a column at the end.

* `Json.Problem` — what can be wrong with a text.
* `Json.Fault` — a problem with its line and column; `Json.Fault.message` is its wording.
* `Json.read` — the value of a whole text, or its first fault.
* `Json.nestingLimit` — how deep lists and maps may nest.
-/

namespace Json

/-- What can be wrong with a text. -/
inductive Problem where
  | endInList
  | endInMap
  | endInString
  | endInValue
  | missingColon
  | missingListComma
  | missingMapComma
  | unknownWord
  | missingValue
  | badEscape
  | badNumber
  | numberTooLarge
  | controlCharacter
  | nameNotString
  | loneSurrogate
  | halfPair
  | trailingComma
  | trailingText
  | tooDeep
deriving DecidableEq, Repr

/-- The wording of a problem. -/
def Problem.message : Problem → String
  | .endInList => "EOF while parsing a list"
  | .endInMap => "EOF while parsing an object"
  | .endInString => "EOF while parsing a string"
  | .endInValue => "EOF while parsing a value"
  | .missingColon => "expected `:`"
  | .missingListComma => "expected `,` or `]`"
  | .missingMapComma => "expected `,` or `\x7d`"
  | .unknownWord => "expected ident"
  | .missingValue => "expected value"
  | .badEscape => "invalid escape"
  | .badNumber => "invalid number"
  | .numberTooLarge => "number out of range"
  | .controlCharacter => "control character (\\u0000-\\u001F) found while parsing a string"
  | .nameNotString => "key must be a string"
  | .loneSurrogate => "lone leading surrogate in hex escape"
  | .halfPair => "unexpected end of hex escape"
  | .trailingComma => "trailing comma"
  | .trailingText => "trailing characters"
  | .tooDeep => "recursion limit exceeded"

/-- A problem and where it is: lines count from one, columns count the bytes before the place on
its line. -/
structure Fault where
  problem : Problem
  line : Nat
  column : Nat
deriving DecidableEq, Repr

/-- The wording of a fault. -/
def Fault.message (f : Fault) : String :=
  s!"{f.problem.message} at line {f.line} column {f.column}"

/-- A problem and the number of bytes left after its place. -/
structure Stop where
  problem : Problem
  left : Nat
deriving DecidableEq, Repr

/-- The size of a text in bytes. -/
def byteCount : (text : List Char) → Nat
  | [] => 0
  | c :: rest => c.utf8Size + byteCount rest

/-- A problem right before `rest`. -/
def stopBefore {α : Type} (problem : Problem) (rest : List Char) : Except Stop α :=
  .error ⟨problem, byteCount rest⟩

/-- A problem with the first byte of `rest`, which its place includes. -/
def stopAt {α : Type} (problem : Problem) (rest : List Char) : Except Stop α :=
  .error ⟨problem, byteCount rest - 1⟩

/-- Blanks between tokens. -/
def isBlank (c : Char) : Bool := c == ' ' || c == '\n' || c == '\t' || c == '\r'

/-- The text without its leading blanks. -/
def skipBlanks (text : List Char) : List Char := text.dropWhile isBlank

/-- Reads the letters of a word. -/
def word {α : Type} (result : α) : (letters rest : List Char) → Except Stop (α × List Char)
  | [], rest => .ok (result, rest)
  | _ :: _, [] => stopBefore .endInValue []
  | l :: ls, c :: cs => if c = l then word result ls cs else stopAt .unknownWord (c :: cs)

/-! ### Strings -/

/-- The value of a hexadecimal digit. -/
def hexValue? (c : Char) : Option Nat :=
  if '0' ≤ c ∧ c ≤ '9' then some (c.toNat - '0'.toNat)
  else if 'a' ≤ c ∧ c ≤ 'f' then some (c.toNat - 'a'.toNat + 10)
  else if 'A' ≤ c ∧ c ≤ 'F' then some (c.toNat - 'A'.toNat + 10)
  else none

/-- Four hexadecimal digits.  Four bytes are taken before they are looked at. -/
def hexUnit (rest : List Char) : Except Stop (Nat × List Char) :=
  let digits := rest.take 4
  match digits.mapM hexValue?, digits.length with
  | some values, 4 => .ok (values.foldl (16 * · + ·) 0, rest.drop 4)
  | _, _ =>
    if byteCount rest < 4 then stopBefore .endInString []
    else .error ⟨.badEscape, byteCount rest - 4⟩

/-- The rest of a `\u` escape.  A character beyond the first plane is written as two units. -/
def unicodeEscape (rest : List Char) : Except Stop (Char × List Char) := do
  let (unit, rest) ← hexUnit rest
  if 0xDC00 ≤ unit ∧ unit ≤ 0xDFFF then stopBefore .loneSurrogate rest
  else if unit < 0xD800 ∨ 0xDBFF < unit then pure (Char.ofNat unit, rest)
  else
    match rest with
    | [] => stopBefore .endInString []
    | '\\' :: [] => stopBefore .endInString []
    | '\\' :: 'u' :: rest => do
      let (low, rest) ← hexUnit rest
      if low < 0xDC00 ∨ 0xDFFF < low then stopBefore .loneSurrogate rest
      else pure (Char.ofNat ((unit - 0xD800) * 0x400 + (low - 0xDC00) + 0x10000), rest)
    | '\\' :: rest => stopAt .halfPair rest
    | rest => stopAt .halfPair rest

/-- The rest of an escape. -/
def escape : List Char → Except Stop (Char × List Char)
  | [] => stopBefore .endInString []
  | '"' :: rest => .ok ('"', rest)
  | '\\' :: rest => .ok ('\\', rest)
  | '/' :: rest => .ok ('/', rest)
  | 'b' :: rest => .ok ('\x08', rest)
  | 'f' :: rest => .ok ('\x0c', rest)
  | 'n' :: rest => .ok ('\n', rest)
  | 'r' :: rest => .ok ('\r', rest)
  | 't' :: rest => .ok ('\t', rest)
  | 'u' :: rest => unicodeEscape rest
  | rest => stopAt .badEscape rest

/-- The characters of a string up to its closing quote, for texts no longer than `fuel`. -/
def stringChars : (fuel : Nat) → List Char → Except Stop (List Char × List Char)
  | _, [] => stopBefore .endInString []
  | 0, _ => stopBefore .endInString []
  | fuel + 1, c :: rest =>
    if c = '"' then .ok ([], rest)
    else if c = '\\' then do
      let (d, rest) ← escape rest
      let (ds, rest) ← stringChars fuel rest
      pure (d :: ds, rest)
    else if c.toNat < 0x20 then stopAt .controlCharacter (c :: rest)
    else do
      let (ds, rest) ← stringChars fuel rest
      pure (c :: ds, rest)

/-- A string after its opening quote, for texts no longer than `fuel`. -/
def string (fuel : Nat) (rest : List Char) : Except Stop (String × List Char) := do
  let (cs, rest) ← stringChars fuel rest
  pure (String.ofList cs, rest)

/-! ### Numbers -/

/-- The largest significand that is kept. -/
def greatestSignificand : Nat := 0xFFFFFFFFFFFFFFFF

/-- The largest exponent that is kept. -/
def greatestExponent : Nat := 0x7FFFFFFF

/-- Whether the character is one of the ten digits. -/
def isDigit (c : Char) : Bool := '0' ≤ c && c ≤ '9'

/-- The value of a digit. -/
def digitValue (c : Char) : Nat := c.toNat - '0'.toNat

/-- The digits read so far, as `significand · 10 ^ exponent`. -/
structure Scaled where
  significand : Nat
  exponent : Int
  /-- Whether a digit was left out because the significand was full. -/
  full : Bool
deriving DecidableEq, Repr

/-- One more digit before the point.  From the first digit that does not fit on, digits only
raise the exponent. -/
def Scaled.pushWhole (s : Scaled) (c : Char) : Scaled :=
  let next := s.significand * 10 + digitValue c
  if s.full ∨ greatestSignificand < next then ⟨s.significand, s.exponent + 1, true⟩
  else ⟨next, s.exponent, false⟩

/-- One more digit after the point.  From the first digit that does not fit on, digits are
dropped. -/
def Scaled.pushFraction (s : Scaled) (c : Char) : Scaled :=
  let next := s.significand * 10 + digitValue c
  if s.full ∨ greatestSignificand < next then { s with full := true }
  else ⟨next, s.exponent - 1, false⟩

/-- `x · 10 ^ exponent` in steps of one rounding each: a power within reach is one
multiplication or division, a smaller one first divides by `10 ^ 308`. -/
def scale (x : Binary64) (exponent : Int) : Option Binary64 :=
  if exponent.natAbs ≤ 308 then
    if 0 ≤ exponent then
      let product := x.mul (Binary64.pow10 exponent.toNat)
      if product.isInfinite then none else some product
    else some (x.div (Binary64.pow10 (-exponent).toNat))
  else if x.isZero then some x
  else if 0 ≤ exponent then none
  else scale (x.div (Binary64.pow10 308)) (exponent + 308)
termination_by (-exponent).toNat
decreasing_by omega

/-- The double that digits and exponent stand for. -/
def float (negative : Bool) (significand : Nat) (exponent : Int) (rest : List Char) :
    Except Stop (Value × List Char) :=
  match scale (Binary64.ofNat significand) exponent with
  | none => stopBefore .numberTooLarge rest
  | some x => .ok (.float (if negative then x.neg else x), rest)

/-- Reads the digits of an exponent; of one that is too large only whether it is positive
matters. -/
def exponentDigits (negative : Bool) (s : Scaled) (down : Bool) :
    (value : Nat) → List Char → Except Stop (Value × List Char)
  | value, [] =>
    float negative s.significand (s.exponent + if down then -(value : Int) else value) []
  | value, c :: rest =>
    if isDigit c then
      let next := value * 10 + digitValue c
      if greatestExponent < next then
        if s.significand ≠ 0 ∧ ¬ down then stopBefore .numberTooLarge rest
        else
          let zero := if negative then Binary64.zero.neg else Binary64.zero
          .ok (.float zero, rest.dropWhile isDigit)
      else exponentDigits negative s down next rest
    else
      float negative s.significand (s.exponent + if down then -(value : Int) else value) (c :: rest)

/-- The part of a number after its `e`. -/
def exponentPart (negative : Bool) (s : Scaled) (rest : List Char) :
    Except Stop (Value × List Char) :=
  let (down, rest) := match rest with
    | '+' :: rest => (false, rest)
    | '-' :: rest => (true, rest)
    | rest => (false, rest)
  match rest with
  | [] => stopBefore .endInValue []
  | c :: tail =>
    if isDigit c then exponentDigits negative s down (digitValue c) tail
    else stopAt .badNumber rest

/-- The part of a number after its digits before the point. -/
def numberTail (negative : Bool) (s : Scaled) (rest : List Char) :
    Except Stop (Value × List Char) :=
  match rest with
  | '.' :: rest =>
    let digits := rest.takeWhile isDigit
    let after := rest.dropWhile isDigit
    if digits.isEmpty then
      if after.isEmpty then stopBefore .endInValue [] else stopAt .badNumber after
    else
      let s := digits.foldl Scaled.pushFraction { s with full := false }
      match after with
      | 'e' :: rest | 'E' :: rest => exponentPart negative s rest
      | _ => float negative s.significand s.exponent after
  | 'e' :: rest | 'E' :: rest => exponentPart negative s rest
  | rest =>
    -- more digits than fit are rounded; any other number stays whole as long as it fits
    if s.full then float negative s.significand s.exponent rest
    else if ¬ negative then .ok (.int s.significand, rest)
    else if s.significand = 0 ∨ ¬ IntRange.signed64.holds (-s.significand) then
      float negative s.significand 0 rest
    else .ok (.int (-s.significand), rest)

/-- A number after its sign.  A leading zero stands alone. -/
def number (negative : Bool) (rest : List Char) : Except Stop (Value × List Char) :=
  match rest with
  | [] => stopBefore .endInValue []
  | '0' :: tail =>
    match tail with
    | c :: _ => if isDigit c then stopAt .badNumber tail else numberTail negative ⟨0, 0, false⟩ tail
    | [] => numberTail negative ⟨0, 0, false⟩ tail
  | c :: _ =>
    if isDigit c then
      numberTail negative ((rest.takeWhile isDigit).foldl Scaled.pushWhole ⟨0, 0, false⟩)
        (rest.dropWhile isDigit)
    else stopAt .badNumber rest

/-! ### Values -/

/-- How deep lists and maps may nest. -/
def nestingLimit : Nat := 127

mutual

/-- A value, for texts of less than half of `fuel` and at most `depth` more levels of nesting. -/
def value : (fuel depth : Nat) → List Char → Except Stop (Value × List Char)
  | 0, _, _ => stopBefore .endInValue []
  | fuel + 1, depth, text =>
    match skipBlanks text with
    | [] => stopBefore .endInValue []
    -- the first character decides, so nothing is tried twice
    | 'n' :: rest => word .null ['u', 'l', 'l'] rest
    | 't' :: rest => word (.bool true) ['r', 'u', 'e'] rest
    | 'f' :: rest => word (.bool false) ['a', 'l', 's', 'e'] rest
    | '-' :: rest => number true rest
    | '"' :: rest => do
      let (s, rest) ← string fuel rest
      pure (.str s, rest)
    | '[' :: rest =>
      match depth with
      | 0 => stopAt .tooDeep ('[' :: rest)
      | depth + 1 =>
        match skipBlanks rest with
        | ']' :: rest => .ok (.list [], rest)
        | [] => stopBefore .endInList []
        | rest => do
          let (items, rest) ← items fuel depth rest
          pure (.list items, rest)
    | '\x7b' :: rest =>
      match depth with
      | 0 => stopAt .tooDeep ('\x7b' :: rest)
      | depth + 1 =>
        match skipBlanks rest with
        | '\x7d' :: rest => .ok (.map [], rest)
        | [] => stopBefore .endInMap []
        | rest => do
          let (fields, rest) ← fields fuel depth [] rest
          pure (.map fields, rest)
    | c :: rest => if isDigit c then number false (c :: rest) else stopAt .missingValue (c :: rest)

/-- The items of a list from one of them to the closing bracket. -/
def items : (fuel depth : Nat) → List Char → Except Stop (List Value × List Char)
  | 0, _, _ => stopBefore .endInList []
  | fuel + 1, depth, text => do
    let (item, rest) ← value fuel depth text
    match skipBlanks rest with
    | [] => stopBefore .endInList []
    | ']' :: rest => pure ([item], rest)
    | ',' :: rest =>
      match skipBlanks rest with
      | [] => stopBefore .endInValue []
      | ']' :: rest => stopAt .trailingComma (']' :: rest)
      | rest => do
        let (others, rest) ← items fuel depth rest
        pure (item :: others, rest)
    | rest => stopAt .missingListComma rest

/-- The fields of a map from one of them to the closing brace, added to those `before`. -/
def fields : (fuel depth : Nat) → (before : List (String × Value)) → List Char →
    Except Stop (List (String × Value) × List Char)
  | 0, _, _, _ => stopBefore .endInMap []
  | fuel + 1, depth, before, text =>
    match text with
    | '"' :: rest => do
      let (name, rest) ← string fuel rest
      match skipBlanks rest with
      | [] => stopBefore .endInMap []
      | ':' :: rest => do
        let (field, rest) ← value fuel depth rest
        -- a name given twice keeps its place and takes the last value
        let known := Value.put name field before
        match skipBlanks rest with
        | [] => stopBefore .endInMap []
        | '\x7d' :: rest => pure (known, rest)
        | ',' :: rest =>
          match skipBlanks rest with
          | [] => stopBefore .endInValue []
          | '\x7d' :: rest => stopAt .trailingComma ('\x7d' :: rest)
          | rest => fields fuel depth known rest
        | rest => stopAt .missingMapComma rest
      | rest => stopAt .missingColon rest
    | rest => stopAt .nameNotString rest

end

/-- A value with nothing but blanks around it. -/
def document (text : List Char) : Except Stop Value := do
  let (result, rest) ← value (2 * text.length + 2) nestingLimit text
  match skipBlanks rest with
  | [] => pure result
  | rest => stopAt .trailingText rest

/-- The line and column of the place `offset` bytes into the text. -/
def locate : (line column : Nat) → (offset : Nat) → List Char → Nat × Nat
  | line, column, offset, [] => (line, column + offset)
  | line, column, offset, c :: rest =>
    if offset < c.utf8Size then (line, column + offset)
    else if c = '\n' then locate (line + 1) 0 (offset - 1) rest
    else locate line (column + c.utf8Size) (offset - c.utf8Size) rest

/-- The value of a text, or its first fault. -/
def read (text : String) : Except Fault Value :=
  match document text.toList with
  | .ok result => .ok result
  | .error stop =>
    let (line, column) := locate 1 0 (byteCount text.toList - stop.left) text.toList
    .error ⟨stop.problem, line, column⟩

end Json

end TreeOutline
