import TreeOutline.Number.Bits
import TreeOutline.Shell.Awk.Matching
import TreeOutline.Shell.Tool.Formats

namespace TreeOutline

/-!
# Values of programs for records

* `Shell.Awk.Value` — unset, a number, a text, or a text from the input, which counts as a number if
  it looks like one.
* `Value.toNumber`, `Value.toText`, `Value.holds`, `Value.order` — numbers and texts of values.
* `Shell.Awk.formatted` — values by a format.
* `Shell.Awk.Table` — values by texts, with the order in which a loop visits them; it visits each
  of them (`Table.visited_perm`).
* `Shell.Awk.fieldsOf`, `Shell.Awk.firstRecord?` — a record in fields, and a text in records.
-/

namespace Shell

namespace Awk

/-- A value. -/
inductive Value where
  | unset
  | number (x : Float)
  | text (chars : List Char)
  | input (chars : List Char)

instance : Inhabited Value := ⟨.unset⟩

/-! ### Numbers -/

/-- A number cut to an integer; `none` for what is none. -/
def truncated? (x : Float) : Option Int :=
  match Binary64.ofFloat x with
  | .finite negative mantissa exponent =>
    let (num, den) := Binary64.ratioOf mantissa exponent
    some (if negative then -((num / den : Nat) : Int) else ((num / den : Nat) : Int))
  | _ => none

/-- A number cut to an integer, as far as it fits into 64 bits with or without a sign. -/
def fittingInteger (x : Float) : Int :=
  match truncated? x with
  | some n => max IntRange.signed64.least (min n IntRange.unsigned64.greatest)
  | none => if 0.0 < x then IntRange.unsigned64.greatest else IntRange.signed64.least

/-- The digits of a number that is an integer and not too large. -/
def integerText? (x : Float) : Option (List Char) :=
  match truncated? x with
  | some n =>
    if Float.ofInt n == x ∧ IntRange.signed64.least ≤ n ∧ n ≤ IntRange.unsigned64.greatest + 1 then
      some (toString (fittingInteger x)).toList
    else none
  | none => none

/-- What remains of a division, with the sign of what is divided. -/
def remainder (x y : Float) : Float :=
  match Binary64.ofFloat x, Binary64.ofFloat y with
  | .finite s m q, .finite _ n p =>
    let least := min q p
    let divisor := n * Nat.pow 2 (p - least).toNat
    if divisor = 0 then 0.0 / 0.0
    else
      let (num, den) := Binary64.ratioOf 1 least
      (Binary64.ofRatio s (m * Nat.pow 2 (q - least).toNat % divisor * num) den).toFloat
  | .finite _ _ _, .infinite _ => x
  | _, _ => 0.0 / 0.0

/-- Whether a text from the input looks like a number: it begins with a digit, a sign or a point,
ends with a digit or a point, and the number takes up all of it but blanks around. -/
def looksNumeric (chars : List Char) : Bool :=
  let body := (chars.dropWhile isSpaceByte).reverse.dropWhile isSpaceByte
  let body := body.reverse
  body.head?.any (fun c => c.isDigit || c ∈ ['+', '-', '.']) &&
    body.getLast?.any (fun c => c.isDigit || c == '.') &&
    (leadingReal? body).any fun (_, rest) => rest.isEmpty

/-- The number of a value. -/
def Value.toNumber : Value → Float
  | .unset => 0
  | .number x => x
  | .text chars | .input chars => (realOf chars).toFloat

/-- Whether a value counts as a number. -/
def Value.isNumeric : Value → Bool
  | .unset | .number _ => true
  | .text _ => false
  | .input chars => looksNumeric chars

/-- Whether a value holds as a condition. -/
def Value.holds : Value → Bool
  | .unset => false
  | .number x => x != 0.0
  | .text chars => !chars.isEmpty
  | .input chars =>
    if looksNumeric chars then (realOf chars).toFloat != 0.0 else !chars.isEmpty

/-! ### Formats -/

/-- Why values cannot be printed by a format. -/
inductive FormatFault where
  | missing
  | improper (number : Nat)
deriving DecidableEq, Repr

/-- A number in a format, or a star for the next value, and what follows. -/
def formatCount (chars : List Char) (values : List Value) :
    Option (Option Int × List Char × List Value) :=
  match chars with
  | '*' :: rest =>
    match values with
    | [] => none
    | value :: values => some (some (fittingInteger value.toNumber), rest, values)
  | chars =>
    let (n, rest) := leadingNat chars
    some (n.map Int.ofNat, rest, values)

/-- A value by a directive; `none` where the letter is unknown. -/
def formattedValue? (toText : Value → List Char) (d : Directive) (value : Value) :
    Option (List Char) :=
  let x := value.toNumber
  let n := fittingInteger x
  match d.letter with
  | 's' =>
    let text := toText value
    some (d.pad ((d.precision.map text.take).getD text))
  | 'c' =>
    let numeric : Bool := match value with
      | .number _ => true
      | .input chars => looksNumeric chars
      | _ => false
    let byte := letterOf (n % 256).toNat
    some (d.pad [if numeric then byte else (toText value).headD '\x00'])
  | _ => (d.number? n).or (d.real? (Binary64.ofFloat x))

/-- Values by a format, up to the first fault. -/
def formatted (toText : Value → List Char) : (fuel : Nat) → (number : Nat) → List Char →
    List Value → List Char × Option FormatFault
  | 0, _, _, _ => ([], none)
  | fuel + 1, number, chars, values =>
    let further (text rest : List Char) (number : Nat) (values : List Value) :
        List Char × Option FormatFault :=
      let (more, fault) := formatted toText fuel number rest values
      (text ++ more, fault)
    match chars with
    | [] => ([], none)
    | '%' :: '%' :: rest => further ['%'] rest number values
    | '%' :: rest =>
      let flags := rest.takeWhile fun c => c ∈ ['-', '+', ' ', '0', '#']
      match formatCount (rest.drop flags.length) values with
      | none => ([], some .missing)
      | some (width, rest, values) =>
        let (precise, rest) := match rest with
          | '.' :: rest => (true, rest)
          | rest => (false, rest)
        match if precise then formatCount rest values else some (none, rest, values) with
        | none => ([], some .missing)
        | some (precision, rest, values) =>
          let rest := rest.dropWhile fun c => c ∈ ['h', 'l', 'L']
          let width := width.getD 0
          let sign := if '+' ∈ flags then some '+' else if ' ' ∈ flags then some ' ' else none
          let letter := rest.headD ' '
          let d : Directive := ⟨'-' ∈ flags || width < 0, '0' ∈ flags, sign, '#' ∈ flags,
            width.natAbs, if precise then some (precision.getD 0).toNat else none, letter⟩
          match values with
          | [] => ([], some .missing)
          | value :: values =>
            if letter ∉ "csdiouxXeEfFgG".toList then ([], some (.improper number))
            else
              further ((formattedValue? toText d value).getD []) (rest.drop 1) (number + 1) values
    | c :: rest => further [c] rest number values

/-- A number as a text: the digits of an integer, and anything else by a format. -/
def numberText (format : List Char) (x : Float) : List Char :=
  (integerText? x).getD
    (if x.isNaN then "-nan".toList
      else (formatted (fun _ => []) (format.length + 1) 1 format [.number x]).1)

/-- The text of a value, with the format for numbers. -/
def Value.toText (format : List Char) : Value → List Char
  | .unset => []
  | .number x => numberText format x
  | .text chars | .input chars => chars

/-- The order of two values: by their numbers if both count as numbers, and else by their texts.
`none` where they cannot be compared. -/
def Value.order (format : List Char) (a b : Value) : Option Ordering :=
  if a.isNumeric ∧ b.isNumeric then
    let x := a.toNumber
    let y := b.toNumber
    if x < y then some .lt else if x == y then some .eq else if y < x then some .gt else none
  else some (compareLists (a.toText format) (b.toText format))
where
  /-- The order of two texts by their letters. -/
  compareLists : List Char → List Char → Ordering
    | [], [] => .eq
    | [], _ :: _ => .lt
    | _ :: _, [] => .gt
    | a :: s, b :: t => if a = b then compareLists s t else if a < b then .lt else .gt

/-- Texts compare as equal only if they are. -/
theorem Value.compareLists_eq_iff {a b : List Char} : order.compareLists a b = .eq ↔ a = b := by
  fun_induction order.compareLists a b with
  | case1 => simp
  | case2 => simp
  | case3 => simp
  | case4 s b t ih => simp [ih]
  | case5 a s b t hne hlt => simp [hne]
  | case6 a s b t hne hlt => simp [hne]

/-! ### Tables -/

/-- Values by texts, those that have been used last in front. -/
abbrev Table := List (List Char × Value)

namespace Table

/-- The value for a text, if there is one; it comes to the front. -/
def use (table : Table) (key : List Char) : Option Value × Table :=
  match table.lookup key with
  | some value => (some value, (key, value) :: table.filter (·.1 ≠ key))
  | none => (none, table)

/-- Sets the value for a text. -/
def put (table : Table) (key : List Char) (value : Value) : Table :=
  (key, value) :: table.filter (·.1 ≠ key)

/-- What a text has after a value has been set: that value under its own, as before under others. -/
theorem lookup_put (table : Table) (key other : List Char) (value : Value) :
    (table.put key value).lookup other =
      if other = key then some value else table.lookup other := by
  rw [put, List.lookup_cons, lookup_filter_ne]
  by_cases hother : other = key
  · simp [hother]
  · rw [if_neg hother, if_neg hother, beq_false_of_ne hother]

/-- A value that is used stays the same, and so do all others. -/
theorem lookup_use (table : Table) (key other : List Char) :
    (table.use key).2.lookup other = table.lookup other := by
  rw [use]
  cases hvalue : table.lookup key with
  | none => rfl
  | some value =>
    refine (lookup_put table key other value).trans ?_
    split
    next hother => rw [hother, hvalue]
    next => rfl

/-- The number by which a text is sorted into buckets: each byte is mixed into it by exclusion and
a product, within 32 bits. -/
def mixed (key : List Char) : Nat :=
  (lowered key).foldl (fun h c => (h ^^^ c.toNat) * 16777619 % 0x100000000) 2166136261

/-- How many buckets there are for so many texts: 64, or twice as many as long as there are more
than twelve texts for each. -/
def bucketCount : (fuel buckets size : Nat) → Nat
  | 0, buckets, _ => buckets
  | fuel + 1, buckets, size =>
    if 12 * buckets < size then bucketCount fuel (2 * buckets) size else buckets

/-- The texts in the order in which a loop visits them: by their buckets, and within one those that
have been used last first. -/
def visited (table : Table) : List (List Char) :=
  let buckets := bucketCount 30 64 table.length
  let numbered := table.map fun (key, _) => (mixed key % buckets, key)
  (numbered.mergeSort fun a b => a.1 ≤ b.1).map (·.2)

/-- There are never fewer buckets than before. -/
theorem le_bucketCount (fuel buckets size : Nat) : buckets ≤ bucketCount fuel buckets size := by
  induction fuel generalizing buckets with
  | zero => exact Nat.le_refl _
  | succ fuel ih =>
    rw [bucketCount]
    split
    · exact Nat.le_trans (by omega) (ih (2 * buckets))
    · exact Nat.le_refl _

/-- **A loop visits each text** of a table, and as often as it is in there. -/
theorem visited_perm (table : Table) : table.visited.Perm (table.map (·.1)) := by
  rw [visited]
  refine ((List.mergeSort_perm _ _).map _).trans ?_
  rw [List.map_map]
  exact List.Perm.refl _

end Table

/-! ### Records and fields -/

/-- Whether a letter stands between fields when nothing else is asked for. -/
def isFieldBlank (c : Char) : Bool := c == ' ' || c == '\t' || c == '\n'

/-- The words of a text. -/
def blankFields : (fuel : Nat) → List Char → List (List Char)
  | 0, _ => []
  | fuel + 1, chars =>
    let chars := chars.dropWhile isFieldBlank
    let field := chars.takeWhile fun c => !isFieldBlank c
    if field.isEmpty then [] else field :: blankFields fuel (chars.drop field.length)

/-- The parts of a text between the matches of a pattern. -/
def partsBetween (pattern : Pattern) : (fuel : Nat) → List Char → List (List Char)
  | 0, chars => [chars]
  | fuel + 1, chars =>
    match firstMatch? pattern ⟨[], chars, []⟩ with
    | none => [chars]
    | some (first, last) =>
      if first.rest.length = last.rest.length then [chars]
      else first.before.reverse :: partsBetween pattern fuel last.rest

/-- What stands between fields or records. -/
inductive Separator where
  | blanks
  | nothing
  | letter (c : Char)
  | pattern (pattern : Pattern)

/-- The fields of a text. -/
def fieldsOf (separator : Separator) (chars : List Char) : List (List Char) :=
  if chars.isEmpty then []
  else
    match separator with
    | .blanks => blankFields (chars.length + 1) chars
    | .nothing => chars.map fun c => [c]
    | .letter c => splitAtChar c chars
    | .pattern pattern => partsBetween pattern chars.length chars

/-- The separator that a text names. -/
def separator (chars : List Char) : Except MatchFault Separator :=
  match chars with
  | [] => .ok .nothing
  | [' '] => .ok .blanks
  | [c] => .ok (.letter c)
  | chars => (readPattern chars).map .pattern

/-- The lines up to the next empty one, and what follows behind all empty ones. -/
def paragraph : List Char → List Char × List Char
  | [] => ([], [])
  | '\n' :: '\n' :: rest => ([], rest.dropWhile (· = '\n'))
  | ['\n'] => ([], [])
  | c :: rest =>
    let (record, rest) := paragraph rest
    (c :: record, rest)

/-- The first record of a text, and what follows; `none` where there is none. -/
def firstRecord? (separator : Separator) (chars : List Char) : Option (List Char × List Char) :=
  match separator with
  | .nothing =>
    let chars := chars.dropWhile (· = '\n')
    if chars.isEmpty then none else some (paragraph chars)
  | .blanks => upTo ' '
  | .letter c => upTo c
  | .pattern pattern =>
    if chars.isEmpty then none
    else
      match firstMatch? pattern ⟨[], chars, []⟩ with
      | none => some (chars, [])
      | some (first, last) => some (first.before.reverse, last.rest)
where
  /-- The first record up to a letter. -/
  upTo (c : Char) : Option (List Char × List Char) :=
    if chars.isEmpty then none
    else
      let record := chars.takeWhile (· ≠ c)
      some (record, chars.drop (record.length + 1))

end Awk

end Shell

end TreeOutline
