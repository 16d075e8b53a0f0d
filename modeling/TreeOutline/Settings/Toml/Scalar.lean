import TreeOutline.Number.Width
import TreeOutline.Value.Basic

namespace TreeOutline

/-!
# Numbers and dates of a settings file

* `Toml.integer?`, `Toml.float?` — numbers, with underscores between digits.
* `Toml.date?`, `Toml.time?`, `Toml.dateTime?` — dates and times in their usual spelling.
* `Toml.scalar?` — what a word stands for.
-/

namespace Toml

/-! ### Digits -/

/-- Whether the character is one of the ten digits. -/
def isDigit (c : Char) : Bool := '0' ≤ c && c ≤ '9'

/-- The value of a digit, up to sixteen of them. -/
def digitValue? (base : Nat) (c : Char) : Option Nat :=
  let value :=
    if isDigit c then c.toNat - '0'.toNat
    else if 'a' ≤ c ∧ c ≤ 'f' then c.toNat - 'a'.toNat + 10
    else if 'A' ≤ c ∧ c ≤ 'F' then c.toNat - 'A'.toNat + 10
    else base
  if value < base then some value else none

/-- Digits with single underscores between them. -/
def digits? (base : Nat) : (afterDigit : Bool) → List Char → Option (List Nat)
  | afterDigit, [] => if afterDigit then some [] else none
  | afterDigit, '_' :: rest => if afterDigit then digits? base false rest else none
  | _, c :: rest => do
    let d ← digitValue? base c
    let ds ← digits? base true rest
    some (d :: ds)

/-- The number that digits stand for. -/
def ofDigits (base : Nat) (digits : List Nat) : Nat := digits.foldl (base * · + ·) 0

/-- The sign in front of a number, and the rest. -/
def sign : List Char → Bool × List Char
  | '-' :: rest => (true, rest)
  | '+' :: rest => (false, rest)
  | text => (false, text)

/-- An integer of 64 bits. -/
def inRange (n : Int) : Option Int := if IntRange.signed64.holds n then some n else none

/-- A whole number without a leading zero, or one after `0x`, `0o` or `0b`. -/
def integer? (word : List Char) : Option Int :=
  match word with
  | '0' :: 'x' :: rest => (digits? 16 false rest).bind fun ds => inRange (ofDigits 16 ds)
  | '0' :: 'o' :: rest => (digits? 8 false rest).bind fun ds => inRange (ofDigits 8 ds)
  | '0' :: 'b' :: rest => (digits? 2 false rest).bind fun ds => inRange (ofDigits 2 ds)
  | word => do
    let (negative, rest) := sign word
    let ds ← digits? 10 false rest
    if ds.head? = some 0 ∧ 1 < rest.length then none
    else inRange (if negative then -(ofDigits 10 ds) else ofDigits 10 ds)

/-- A number with a fraction, an exponent or both, or one of the words for what is no number.  A
positive one beyond all doubles is refused. -/
def float? (word : List Char) : Option Binary64 := do
  let (negative, rest) := sign word
  if rest = ['i', 'n', 'f'] then some (.infinite negative)
  else if rest = ['n', 'a', 'n'] then some .nan
  else
    let isExponent (c : Char) : Bool := c == 'e' || c == 'E'
    let mantissa := rest.takeWhile (!isExponent ·)
    let afterMantissa := rest.dropWhile (!isExponent ·)
    let whole := mantissa.takeWhile (· ≠ '.')
    let afterWhole := mantissa.dropWhile (· ≠ '.')
    let wholeDigits ← digits? 10 false whole
    let fraction ← if afterWhole.isEmpty then some [] else digits? 10 false (afterWhole.drop 1)
    let exponent : Int ← if afterMantissa.isEmpty then some 0 else do
      let (down, digits) := sign (afterMantissa.drop 1)
      let ds ← digits? 10 false digits
      some (if down then -(ofDigits 10 ds : Int) else ofDigits 10 ds)
    -- no zeros in front, and without point or exponent it is a whole number
    if (wholeDigits.head? = some 0 ∧ 1 < whole.length) ∨
        (afterWhole.isEmpty ∧ afterMantissa.isEmpty) then none
    else
      let x := Binary64.ofDecimal negative (ofDigits 10 (wholeDigits ++ fraction))
        (exponent - fraction.length)
      if x = .infinite false then none else some x

/-! ### Dates and times -/

/-- A number of exactly `count` digits within bounds. -/
def field? (count low high : Nat) (text : List Char) : Option (Nat × List Char) :=
  let digits := text.take count
  if digits.length = count ∧ digits.all isDigit then
    let n := ofDigits 10 (digits.map fun c => c.toNat - '0'.toNat)
    if low ≤ n ∧ n ≤ high then some (n, text.drop count) else none
  else none

/-- The rest after an expected character. -/
def expect? (c : Char) : List Char → Option (List Char)
  | d :: rest => if d = c then some rest else none
  | [] => none

/-- The number of days of a month. -/
def daysOf (year month : Nat) : Nat :=
  if month = 2 then
    if (year % 4 = 0 ∧ year % 100 ≠ 0) ∨ year % 400 = 0 then 29 else 28
  else if month = 4 ∨ month = 6 ∨ month = 9 ∨ month = 11 then 30
  else 31

/-- A day: its spelling, which is kept, and the text left. -/
def date? (text : List Char) : Option (List Char × List Char) := do
  let (year, rest) ← field? 4 0 9999 text
  let rest ← expect? '-' rest
  let (month, rest) ← field? 2 1 12 rest
  let rest ← expect? '-' rest
  let (_, rest) ← field? 2 1 (daysOf year month) rest
  some (text.take 10, rest)

/-- A time of day.  Of the fraction of a second nine digits are kept, without zeros at the
end. -/
def time? (text : List Char) : Option (List Char × List Char) := do
  let (_, rest) ← field? 2 0 23 text
  let rest ← expect? ':' rest
  let (_, rest) ← field? 2 0 59 rest
  let rest ← expect? ':' rest
  let (_, rest) ← field? 2 0 60 rest
  match rest with
  | '.' :: after =>
    let digits := after.takeWhile isDigit
    if digits.isEmpty then none
    else
      let kept := ((digits.take 9).reverse.dropWhile (· == '0')).reverse
      some (text.take 8 ++ (if kept.isEmpty then [] else '.' :: kept), after.dropWhile isDigit)
  | _ => some (text.take 8, rest)

/-- The distance from world time, in its usual spelling. -/
def offset? (text : List Char) : Option (List Char) :=
  match text with
  | ['Z'] | ['z'] => some ['Z']
  | c :: rest =>
    if c = '+' ∨ c = '-' then do
      let (hours, rest) ← field? 2 0 23 rest
      let rest ← expect? ':' rest
      let (minutes, rest) ← field? 2 0 59 rest
      if rest.isEmpty then
        some ((if hours + minutes = 0 then '+' else c) :: text.drop 1)
      else none
    else none
  | [] => none

/-- A day, a time, or both, the latter perhaps with an offset. -/
def dateTime? (word : List Char) : Option (List Char) :=
  match date? word with
  | some (day, []) => some day
  | some (day, c :: rest) =>
    if c = 'T' ∨ c = 't' ∨ c = ' ' then do
      let (time, rest) ← time? rest
      let offset ← if rest.isEmpty then some [] else offset? rest
      some (day ++ 'T' :: time ++ offset)
    else none
  | none =>
    match time? word with
    | some (time, []) => some time
    | _ => none

/-- What a word without quotes stands for.  Dates stand for their spelling. -/
def scalar? (word : List Char) : Option Value :=
  if word = "true".toList then some (.bool true)
  else if word = "false".toList then some (.bool false)
  else
    match integer? word, float? word, dateTime? word with
    | some n, _, _ => some (.int n)
    | none, some x, _ => some (.float x)
    | none, none, some text => some (.str (String.ofList text))
    | none, none, none => none

end Toml

end TreeOutline
