import TreeOutline.Shell.Tool.Basic

namespace TreeOutline

/-!
# Bytes by their numbers

* `Shell.DumpFormat` — how bytes are shown; `Shell.readFormats` reads formats.
* `Shell.Dump` — formats, the positions in front of lines and the length of these; `Dump.lines`
  shows bytes.
* `Shell.od` — the bytes of files.
-/

namespace Shell

/-! ### Formats -/

/-- What bytes are taken for: names of characters, characters, and numbers with or without a
sign in a base. -/
inductive DumpKind where
  | named
  | letter
  | signed
  | unsigned (base : Nat)
deriving DecidableEq, Repr

/-- How bytes are shown: as what, how many of them together, and whether they are shown as text
behind it. -/
structure DumpFormat where
  kind : DumpKind
  size : Nat
  withText : Bool
deriving DecidableEq, Repr

namespace DumpFormat

/-- How wide a number of so many bytes can be. -/
def width (format : DumpFormat) : Nat :=
  let greatest := Nat.pow 256 format.size - 1
  match format.kind with
  | .named | .letter => 3
  | .unsigned base => (Nat.toDigits base greatest).length
  | .signed => (Nat.toDigits 10 (greatest / 2 + 1)).length + 1

/-- The names of the characters that cannot be seen. -/
def controlNames : List String :=
  ["nul", "soh", "stx", "etx", "eot", "enq", "ack", "bel", "bs", "ht", "nl", "vt", "ff", "cr",
    "so", "si", "dle", "dc1", "dc2", "dc3", "dc4", "nak", "syn", "etb", "can", "em", "sub", "esc",
    "fs", "gs", "rs", "us", "sp"]

/-- The letters behind a backslash for some characters. -/
def escapeLetters : List (Nat × Char) :=
  [(0, '0'), (7, 'a'), (8, 'b'), (9, 't'), (10, 'n'), (11, 'v'), (12, 'f'), (13, 'r')]

/-- Digits with zeros in front of them. -/
def zeroFilled (width : Nat) (digits : List Char) : List Char :=
  List.replicate (width - digits.length) '0' ++ digits

/-- Zeros fill digits up to the width. -/
theorem length_zeroFilled (width : Nat) (digits : List Char) :
    (zeroFilled width digits).length = max width digits.length := by
  rw [zeroFilled, List.length_append, List.length_replicate]
  omega

/-- Some bytes as they are shown. -/
def show' (format : DumpFormat) (bytes : List Char) : List Char :=
  let n := bytes.reverse.foldl (fun n c => 256 * n + c.toNat) 0
  match format.kind with
  | .named =>
    let n := n % 128
    if n = 127 then "del".toList
    else ((controlNames[n]?).getD (String.singleton (Char.ofNat n))).toList
  | .letter =>
    match escapeLetters.lookup n with
    | some letter => ['\\', letter]
    | none => if 32 ≤ n ∧ n < 127 then [Char.ofNat n] else zeroFilled 3 (Nat.toDigits 8 n)
  | .signed =>
    let bound := Nat.pow 256 format.size
    (toString (if 2 * n < bound then (n : Int) else (n : Int) - bound)).toList
  | .unsigned 10 => Nat.toDigits 10 n
  | .unsigned base => zeroFilled format.width (Nat.toDigits base n)

end DumpFormat

/-- The size behind the letter of a format, and what follows. -/
def readSize (chars : List Char) : Nat × List Char :=
  match chars with
  | 'C' :: rest => (1, rest)
  | 'S' :: rest => (2, rest)
  | 'I' :: rest => (4, rest)
  | 'L' :: rest => (8, rest)
  | chars =>
    match leadingNat chars with
    | (some n, rest) => (n, rest)
    | (none, rest) => (4, rest)

/-- Reads formats; those that cannot be used are complained about. -/
def readFormats (text : String) : (fuel : Nat) → List Char → Except String (List DumpFormat)
  | 0, _ => .ok []
  | fuel + 1, chars => do
    match chars with
    | [] => .ok []
    | letter :: rest =>
      let number (kind : DumpKind) : Except String (DumpFormat × List Char) :=
        let (size, rest) := readSize rest
        if size ∈ [1, 2, 4, 8] then .ok (⟨kind, size, false⟩, rest)
        else .error ("invalid type string '" ++ text ++ "';\nthis system doesn't provide a " ++
          toString size ++ "-byte integral type")
      let (format, rest) ← match letter with
        | 'a' => .ok (⟨.named, 1, false⟩, rest)
        | 'c' => .ok (⟨.letter, 1, false⟩, rest)
        | 'd' => number .signed
        | 'o' => number (.unsigned 8)
        | 'u' => number (.unsigned 10)
        | 'x' => number (.unsigned 16)
        | c => .error ("invalid character '" ++ String.singleton c ++ "' in type string '" ++
          text ++ "'")
      let texts := rest.takeWhile (· = 'z')
      let more ← readFormats text fuel (rest.drop texts.length)
      .ok ({ format with withText := !texts.isEmpty } :: more)

/-! ### Lines -/

/-- Bytes as they are shown: the formats, the base of the positions if these are shown, how many
bytes are in a line, and whether lines that repeat are shown. -/
structure Dump where
  formats : List DumpFormat
  base : Option Nat
  length : Nat
  repeats : Bool

namespace Dump

/-- A position in front of a line. -/
def position (dump : Dump) (n : Nat) : List Char :=
  match dump.base with
  | none => []
  | some base => DumpFormat.zeroFilled (if base = 16 then 6 else 7) (Nat.toDigits base n)

/-- How wide all that one format shows of a line is, blanks between it included; all formats take as
much room as the one that needs most. -/
def room (dump : Dump) : Nat :=
  (dump.formats.map fun format => (format.width + 1) * (dump.length / format.size)).foldl max 0

/-- One line in one format. -/
def row (dump : Dump) (format : DumpFormat) (bytes : List Char) : List Char :=
  let count := dump.length / format.size
  let spare := dump.room - format.width * count
  let items := (piecesOf format.size (bytes.length + 1) bytes).zipIdx.map fun (item, i) =>
    let width := format.width + spare * (count - i) / count - spare * (count - i - 1) / count
    padLeft width (format.show' item)
  let shown := items.flatten
  let text :=
    if ¬ format.withText then []
    else
      let missing := count - items.length
      List.replicate (missing * format.width + spare * missing / count) ' ' ++ [' ', ' ', '>'] ++
        bytes.map (fun c => if ' ' ≤ c ∧ c ≤ '~' then c else '.') ++ ['<']
  shown ++ text

/-- The lines that show bytes from a position on.  In the place of lines that repeat the one before
them stands an asterisk. -/
def lines (dump : Dump) (first : Nat) (bytes : List Char) : List (List Char) :=
  let pieces := piecesOf dump.length (bytes.length + 1) bytes
  let indent := List.replicate (dump.position 0).length ' '
  let rows (line : List Char) (i : Nat) : List (List Char) :=
    dump.formats.zipIdx.map fun (format, j) =>
      (if j = 0 then dump.position (first + dump.length * i) else indent) ++ dump.row format line
  let shown := (pieces.zipIdx.foldl
    (fun ((done, before, starred) : List (List Char) × Option (List Char) × Bool) (line, i) =>
      if ¬ dump.repeats ∧ before = some line ∧ line.length = dump.length then
        (if starred then done else ['*'] :: done, before, true)
      else ((rows line i).reverse ++ done, some line, false)) ([], none, false)).1.reverse
  if dump.base.isSome then shown ++ [dump.position (first + bytes.length)] else shown

end Dump

/-- Shows bytes by their numbers, in lines behind the position of their first one: `-t` names
formats, and some letters stand for one of them; `-A` names the base of positions, `-j` and `-N`
leave bytes out, `-w` is the length of lines, and `-v` shows all of them. -/
def od (task : Task) : Report :=
  let table : OptionTable := ⟨"abcdhilosxvW", "AtNjw", [("address-radix", 'A'), ("format", 't'),
    ("read-bytes", 'N'), ("skip-bytes", 'j'), ("output-duplicates", 'v'), ("width", 'W')]⟩
  let formatOf (option : Char × String) : Option String :=
    match option.1 with
    | 't' => some option.2
    | 'a' | 'c' => some (String.singleton option.1)
    | 'b' => some "o1"
    | 'd' => some "u2"
    | 'h' | 'x' => some "x2"
    | 'i' => some "dI"
    | 'l' => some "dL"
    | 'o' => some "o2"
    | 's' => some "d2"
    | _ => none
  let words := task.words.map fun word => if word = "-w" then "--width" else word
  Task.withOptions { task with words } "od" 1 table fun options paths =>
    let texts := options.filterMap formatOf
    let texts := if texts.isEmpty then ["o2"] else texts
    let quantity (letter : Char) : Except String (Option Nat) :=
      match optionValue? options letter with
      | none => .ok none
      | some text =>
        match quantity? text with
        | .ok n => .ok (some n)
        | .error fault =>
          .error ("invalid -" ++ String.singleton letter ++ " argument '" ++ text ++ "'" ++
            fault.suffix)
    let work : Except String (List Char) := do
      let base ← match (optionValue? options 'A').getD "o" with
        | "n" => .ok none
        | "d" => .ok (some 10)
        | "o" => .ok (some 8)
        | "x" => .ok (some 16)
        | text => .error ("invalid output address radix '" ++
            String.ofList (text.toList.take 1) ++ "'; it must be one character from [doxn]")
      let skipped ← quantity 'j'
      let most ← quantity 'N'
      let formats ← texts.mapM fun text => readFormats text (text.length + 1) text.toList
      let formats := formats.flatten
      let largest := (formats.map (·.size)).foldl max 1
      let asked := match lastOption? options ['w', 'W'] with
        | some ('w', text) => natural? text
        | some (_, text) => if text = "" then some 32 else natural? text
        | none => some 16
      let length := match asked with
        | some n => if n ≠ 0 ∧ n % largest = 0 then n else largest
        | none => largest
      let (found, _) := task.sources paths (Task.missing "od")
      let all := found.flatMap (·.2)
      let skipped := skipped.getD 0
      if all.length < skipped then .error "cannot skip past end of combined input"
      let bytes := all.drop skipped
      let bytes := (most.map bytes.take).getD bytes
      let dump : Dump := ⟨formats, base, length, hasOption options 'v'⟩
      .ok (joinLines (dump.lines skipped bytes))
    match work with
    | .error text => .complaining task 1 s!"od: {text}"
    | .ok text =>
      let (_, complaint) := task.sources paths (Task.missing "od")
      ⟨text, complaint, if complaint.isEmpty then 0 else 1,
        if Task.readsInput paths then [] else task.input⟩

end Shell

end TreeOutline
