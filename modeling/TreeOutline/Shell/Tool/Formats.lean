import TreeOutline.Number.Places
import TreeOutline.Shell.Tool.Letters
import TreeOutline.Text.Case

namespace TreeOutline

/-!
# Printing by formats

* `Shell.unescape` — a word with its escapes replaced.
* `Shell.Directive` — a part of a format that a word takes the place of.
* `Shell.Directive.number?`, `Shell.Directive.real?` — numbers by a directive.
* `Shell.printf` — words by a format, which is used again as long as there are words.
-/

namespace Shell

/-! ### Escapes -/

/-- The character that an escape with digits of base sixteen names, and what is behind it. -/
def hexEscape? (chars : List Char) : Option (Char × List Char) :=
  match chars with
  | 'x' :: rest =>
    let digits := (rest.take 2).takeWhile isHexDigit
    if digits.isEmpty then none
    else some (Char.ofNat (digitsNumber 16 digits), rest.drop digits.length)
  | _ => none

/-- Replaces escapes in a word; `false` when one of them ends all printing.  An octal number may
have a zero in front, and only where `hexadecimal` is asked for there are numbers in base
sixteen. -/
def unescape (hexadecimal : Bool) : (fuel : Nat) → List Char → List Char × Bool
  | 0, _ => ([], true)
  | fuel + 1, chars =>
    let andThen (c : Char) (rest : List Char) : List Char × Bool :=
      let (text, goesOn) := unescape hexadecimal fuel rest
      (c :: text, goesOn)
    match chars with
    | [] => ([], true)
    | '\\' :: 'c' :: _ => ([], false)
    | '\\' :: 'e' :: rest => andThen '\x1b' rest
    | '\\' :: '0' :: rest =>
      let digits := (rest.take 3).takeWhile isOctal
      andThen (octalChar digits) (rest.drop digits.length)
    | '\\' :: d :: rest =>
      if isOctal d then
        let digits := d :: (rest.take 2).takeWhile isOctal
        andThen (octalChar digits) (rest.drop (digits.length - 1))
      else
        match controlLetter? d, if hexadecimal then hexEscape? (d :: rest) else none with
        | some c, _ => andThen c rest
        | none, some (c, rest) => andThen c rest
        | none, none => andThen '\\' (d :: rest)
    | c :: rest => andThen c rest

/-- Without a backslash there is nothing to replace. -/
theorem unescape_of_not_mem {hexadecimal : Bool} {fuel : Nat} {chars : List Char}
    (hfuel : chars.length < fuel) (h : '\\' ∉ chars) :
    unescape hexadecimal fuel chars = (chars, true) := by
  induction chars generalizing fuel with
  | nil =>
    obtain ⟨fuel, rfl⟩ := Nat.exists_eq_add_one_of_ne_zero (Nat.ne_of_gt hfuel)
    rfl
  | cons c rest ih =>
    obtain ⟨fuel, rfl⟩ := Nat.exists_eq_add_one_of_ne_zero (Nat.ne_of_gt (Nat.zero_lt_of_lt hfuel))
    have hc : c ≠ '\\' := fun heq => h (heq ▸ List.mem_cons_self)
    have hrest : '\\' ∉ rest := fun hmem => h (List.mem_cons_of_mem c hmem)
    rw [unescape]
    · dsimp only
      rw [ih (Nat.lt_of_succ_lt_succ hfuel) hrest]
    -- a letter is not taken for an escape
    all_goals intros; simp_all

/-- What a backslash in a format is followed by. -/
inductive FormatEscape where
  | letter (c : Char) (rest : List Char)
  | finish
  | fault (text : String)
  | plain

/-- Reads an escape in a format, where an octal number needs no zero in front; `separate` programs
know more of them. -/
def formatEscape (separate : Bool) : List Char → FormatEscape
  | 'e' :: rest => .letter '\x1b' rest
  | '"' :: rest => .letter '"' rest
  | d :: rest =>
    if isOctal d then
      let digits := d :: (rest.take 2).takeWhile isOctal
      .letter (octalChar digits) (rest.drop (digits.length - 1))
    else
      match controlLetter? d, separate, hexEscape? (d :: rest) with
      | some c, _, _ => .letter c rest
      | none, true, some (c, rest) => .letter c rest
      | none, true, none =>
        if d = 'c' then .finish
        else if d = 'x' then .fault "missing hexadecimal number in escape"
        else .plain
      | none, false, _ => .plain
  | [] => .plain

/-! ### Formats -/

/-- What is wrong with a word that a number is asked for. -/
inductive NumberFault where
  | noNumber
  | more
  | tooLarge
deriving DecidableEq, Repr

/-- The number at the start of a word, as far as it is in a range, and what is wrong with it.  A
quote in front asks for the number of a character. -/
def numberOf (range : IntRange) (word : String) : Int × Option NumberFault :=
  match skipSpace word.toList with
  | '"' :: c :: _ | '\'' :: c :: _ => (c.toNat, none)
  | chars =>
    let (negative, chars) := leadingSign chars
    match wideNumber? chars with
    | some (n, rest) =>
      let n : Int := if negative then -n else n
      let fitting := max range.least (min n range.greatest)
      (fitting, if n ≠ fitting then some .tooLarge else if rest.isEmpty then none else some .more)
    | none => (0, if word = "" then none else some .noNumber)

/-- **The number that a word is taken for** fits into the range that is asked for, if characters
do. -/
theorem holds_numberOf {range : IntRange} (hleast : range.least ≤ 0)
    (hgreatest : 0x10ffff ≤ range.greatest) (word : String) :
    range.holds (numberOf range word).1 = true := by
  have hchar (c : Char) : (c.toNat : Int) ≤ 0x10ffff := by
    have h : c.toNat < 0xd800 ∨ 0xdfff < c.toNat ∧ c.toNat < 0x110000 := c.valid
    omega
  rw [IntRange.holds_eq_true_iff]
  unfold numberOf
  split
  next c _ _ => have := hchar c; exact ⟨by omega, by omega⟩
  next c _ _ => have := hchar c; exact ⟨by omega, by omega⟩
  next =>
    dsimp only
    split
    · dsimp only; omega
    · dsimp only; omega

/-- A directive of a format: flags, width, precision and letter. -/
structure Directive where
  left : Bool
  zeros : Bool
  sign : Option Char
  alternate : Bool
  width : Nat
  precision : Option Nat
  letter : Char

/-- Reads a directive behind its percent sign. -/
def directive? (chars : List Char) : Option (Directive × List Char) :=
  let isFlag (c : Char) : Bool := c ∈ ['-', '+', ' ', '0', '#']
  let flags := chars.takeWhile isFlag
  let (width, rest) := leadingNat (chars.drop flags.length)
  let (precision, rest) := match rest with
    | '.' :: rest => let (n, rest) := leadingNat rest; (some (n.getD 0), rest)
    | rest => (none, rest)
  match rest with
  | [] => none
  | letter :: rest =>
    let sign := if '+' ∈ flags then some '+' else if ' ' ∈ flags then some ' ' else none
    some (⟨'-' ∈ flags, '0' ∈ flags, sign, '#' ∈ flags, width.getD 0, precision, letter⟩, rest)

/-- Fills a text up to the width of a directive. -/
def Directive.pad (d : Directive) (text : List Char) : List Char :=
  let fill := List.replicate (d.width - text.length) ' '
  if d.left then text ++ fill else fill ++ text

/-- Fills digits up to the precision, or to the width with zeros, behind what stands in front. -/
def Directive.padNumber (d : Directive) (front digits : List Char) : List Char :=
  match d.precision with
  | some n => d.pad (front ++ List.replicate (n - digits.length) '0' ++ digits)
  | none =>
    if d.zeros ∧ ¬ d.left then
      front ++ List.replicate (d.width - front.length - digits.length) '0' ++ digits
    else d.pad (front ++ digits)

/-- What is filled up is as wide as the directive asks for, unless it was wider before. -/
theorem Directive.length_pad (d : Directive) (text : List Char) :
    (d.pad text).length = max d.width text.length := by
  rw [pad]
  split <;> simp <;> omega

/-- So is a number, with or without zeros in front of it. -/
theorem Directive.width_le_length_padNumber (d : Directive) (front digits : List Char) :
    d.width ≤ (d.padNumber front digits).length := by
  rw [padNumber]
  split
  · rw [length_pad]
    exact Nat.le_max_left _ _
  · split
    · simp; omega
    · rw [length_pad]
      exact Nat.le_max_left _ _

/-- A number by a directive. -/
def Directive.number? (d : Directive) (n : Int) : Option (List Char) :=
  let unsigned := (if n < 0 then n + 0x10000000000000000 else n).toNat
  let upper (digits : List Char) : List Char := digits.map Char.toUpper
  match d.letter with
  | 'd' | 'i' =>
    some (d.padNumber ((if n < 0 then some '-' else d.sign).toList) (Nat.toDigits 10 n.natAbs))
  | 'u' => some (d.padNumber [] (Nat.toDigits 10 unsigned))
  | 'o' => some (d.padNumber (if d.alternate then ['0'] else []) (Nat.toDigits 8 unsigned))
  | 'x' =>
    some (d.padNumber (if d.alternate then ['0', 'x'] else []) (Nat.toDigits 16 unsigned))
  | 'X' =>
    some (d.padNumber (if d.alternate then ['0', 'X'] else []) (upper (Nat.toDigits 16 unsigned)))
  | _ => none

/-- A double by a directive. -/
def Directive.real? (d : Directive) (x : Binary64) : Option (List Char) :=
  let places := d.precision.getD 6
  let upper := d.letter.isUpper
  let word (text : String) : List Char := (if upper then asciiUpper text else text).toList
  let front (negative : Bool) : List Char := (if negative then some '-' else d.sign).toList
  let mark := if upper then 'E' else 'e'
  let write? : Option (Nat → Nat → List Char) := match d.letter with
    | 'f' | 'F' => some fun num den => fixedText d.alternate num den places
    | 'e' | 'E' => some fun num den => scientificText d.alternate mark num den places
    | 'g' | 'G' => some fun num den => generalText d.alternate mark num den places
    | _ => none
  write?.map fun write =>
    match x with
    | .infinite negative => d.pad (front negative ++ word "inf")
    | .nan => d.pad (front false ++ word "nan")
    | .finite negative mantissa exponent =>
      let (num, den) := Binary64.ratioOf mantissa exponent
      let text := write num den
      let front := front negative
      if d.zeros ∧ ¬ d.left then
        front ++ List.replicate (d.width - front.length - text.length) '0' ++ text
      else d.pad (front ++ text)

/-- The double at the start of a word, and what is wrong with it. -/
def realOfWord (word : String) : Binary64 × Option NumberFault :=
  match word.toList with
  | '"' :: c :: _ | '\'' :: c :: _ => (.ofNat c.toNat, none)
  | chars =>
    match leadingReal? chars with
    | some (x, rest) => (x, if rest.isEmpty then none else some .more)
    | none => (.zero, if word = "" then none else some .noNumber)

/-- A word in quotes where it needs them, as a shell would read it again. -/
def quotedWord (word : String) : String :=
  let isPlain (c : Char) : Bool := c.isAlphanum || "_-+=./:,@%^".toList.contains c
  let isActive (c : Char) : Bool := c ∈ ['"', '$', '\x60', '\\', '!']
  let chars := word.toList
  if chars ≠ [] ∧ chars.all isPlain then word
  else if chars.contains '\'' ∧ ¬ chars.any isActive then "\"" ++ word ++ "\""
  else "'" ++ word.replace "'" "'\\''" ++ "'"

/-- Who prints: the shell itself or a `separate` program, which also words its complaints in its own
way. -/
structure Printer where
  separate : Bool
  complain : String → List Char

/-- The wording of a fault in a word. -/
def Printer.numberFault (printer : Printer) (word : String) (fault : NumberFault) : List Char :=
  let range := "Numerical result out of range"
  printer.complain <|
    match printer.separate, fault with
    | false, .noNumber => s!"{word}: expected numeric value"
    | false, .more => s!"{word}: not completely converted"
    | false, .tooLarge => s!"{word}: {range}"
    | true, .noNumber => s!"'{word}': expected a numeric value"
    | true, .more => s!"'{word}': value not completely converted"
    | true, .tooLarge => s!"'{word}': {range}"

/-- The wording of a fault in a directive, which is given from its percent sign on and may lack its
letter. -/
def Printer.directiveFault (printer : Printer) (directive : List Char) (lacks : Bool) : List Char :=
  let text := String.ofList directive
  printer.complain <|
    if printer.separate then s!"{text}: invalid conversion specification"
    else if lacks then "missing format character"
    else s!"{text}: invalid directive"

/-- How far a format has got: what is printed and complained, the words that are left, and whether
printing goes on. -/
structure Printing where
  printed : List Char
  complaint : List Char
  words : List String
  used : Bool
  goesOn : Bool
  failed : Bool

namespace Printing

/-- Ends printing with a complaint. -/
def refuse (p : Printing) (complaint : List Char) : Printing :=
  { p with complaint := p.complaint ++ complaint, goesOn := false, failed := true }

/-- What is printed for one directive, which is also given as it is written. -/
def directive (printer : Printer) (d : Directive) (written : List Char) (p : Printing) :
    Printing :=
  let word := p.words.headD ""
  let next := { p with words := p.words.drop 1, used := true }
  let cutTo (text : List Char) : List Char := (d.precision.map text.take).getD text
  match d.letter with
  | 's' => { next with printed := p.printed ++ d.pad (cutTo word.toList) }
  | 'c' => { next with printed := p.printed ++ d.pad (word.toList.take 1) }
  | 'b' =>
    let (text, goesOn) := unescape printer.separate (word.length + 1) word.toList
    { next with printed := p.printed ++ d.pad (cutTo text), goesOn }
  | _ =>
    let signed : Bool := d.letter ∈ ['d', 'i']
    -- the word is read both ways, and the letter decides which reading counts
    let (n, fault) :=
      numberOf (if signed then .signed64 else ⟨-0xffffffffffffffff, 0xffffffffffffffff⟩) word
    let (x, realFault) := realOfWord word
    let number (text : List Char) (fault : Option NumberFault) : Printing :=
      { next with
        printed := p.printed ++ text
        complaint := p.complaint ++ (fault.map (printer.numberFault word)).getD []
        failed := p.failed || fault.isSome }
    match d.number? n, d.real? x with
    | some text, _ => number text fault
    | none, some text => number text realFault
    | none, none =>
      if printer.separate ∧ d.letter = 'q' then
        { next with printed := p.printed ++ (quotedWord word).toList }
      else p.refuse (printer.directiveFault written false)

/-- Takes the width and the precision of a directive from the words where it has a star for them. A
width below nothing asks for the left end of the column, a precision below nothing is none. -/
def starred (p : Printing) (directive : List Char) : Printing × List Char :=
  let next (p : Printing) : Int × Printing :=
    ((numberOf .signed64 (p.words.headD "")).1, { p with words := p.words.drop 1, used := true })
  let flags := directive.takeWhile fun c => ['#', '-', '+', ' ', '0'].contains c
  let (p, width, rest) := match directive.drop flags.length with
    | '*' :: rest =>
      let (n, p) := next p
      (p, (if n < 0 then ['-'] else []) ++ (toString n.natAbs).toList, rest)
    | rest =>
      let width := rest.takeWhile Char.isDigit
      (p, width, rest.drop width.length)
  match rest with
  | '.' :: '*' :: rest =>
    let (n, p) := next p
    (p, flags ++ width ++ (if n < 0 then [] else '.' :: (toString n).toList) ++ rest)
  | rest => (p, flags ++ width ++ rest)

/-- One pass through a format. -/
def pass (printer : Printer) : (fuel : Nat) → Printing → List Char → Printing
  | 0, p, _ => p
  | fuel + 1, p, chars =>
    let add (c : Char) (rest : List Char) : Printing :=
      pass printer fuel { p with printed := p.printed ++ [c] } rest
    if ¬ p.goesOn then p
    else
      match chars with
      | [] => p
      | '%' :: '%' :: rest => add '%' rest
      | '%' :: rest =>
        let (p, whole) := p.starred rest
        match directive? (sized whole) with
        | some (d, rest) =>
          pass printer fuel
            (p.directive printer d ('%' :: whole.take (whole.length - rest.length))) rest
        | none => p.refuse (printer.directiveFault ('%' :: rest) true)
      | '\\' :: rest =>
        match formatEscape printer.separate rest with
        | .letter c rest => add c rest
        | .finish => { p with goesOn := false }
        | .fault text => p.refuse (printer.complain text)
        | .plain => add '\\' rest
      | c :: rest => add c rest
where
  /-- A directive without the letters for a size, which separate programs skip. -/
  sized (directive : List Char) : List Char :=
    if ¬ printer.separate then directive
    else
      let front := directive.takeWhile fun c => c.isDigit || "#-+ .".toList.contains c
      front ++ (directive.drop front.length).dropWhile fun c => "hlLjzt".toList.contains c

/-- Passes through a format as long as words are left and the format uses them. -/
def passes (printer : Printer) (format : List Char) : (fuel : Nat) → Printing → Printing
  | 0, p => p
  | fuel + 1, p =>
    let p := { p with used := false }.pass printer (format.length + 1) format
    if p.goesOn ∧ p.used ∧ ¬ p.words.isEmpty then passes printer format fuel p else p

end Printing

/-- Prints words by a format. -/
def printf (printer : Printer) (task : Task) : Report :=
  let failure := if printer.separate then 1 else 2
  let print (format : String) (words : List String) : Report :=
    -- the format is used again as long as words are left
    let p := Printing.passes printer format.toList (words.length + 1)
      ⟨[], [], words, false, true, false⟩
    let excess := match p.words with
      | word :: _ =>
        if printer.separate ∧ p.goesOn then
          printer.complain s!"warning: ignoring excess arguments, starting with '{word}'"
        else []
      | [] => []
    let status := if ¬ p.failed then 0 else if p.goesOn then 1 else failure
    ⟨p.printed, p.complaint ++ excess, status, task.input⟩
  match task.words with
  | "--" :: format :: words => print format words
  | [] | ["--"] =>
    ⟨[], printer.complain (if printer.separate then
      "missing operand\nTry 'printf --help' for more information."
      else "usage: printf format [arg ...]"), failure, task.input⟩
  | format :: words =>
    match printer.separate, format.toList with
    | false, '-' :: letter :: _ =>
      ⟨[], printer.complain s!"Illegal option -{letter}", 2, task.input⟩
    | _, _ => print format words

end Shell

end TreeOutline
