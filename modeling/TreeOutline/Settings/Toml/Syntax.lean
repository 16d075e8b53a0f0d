namespace TreeOutline

/-!
# Words of a settings file

* `Toml.skipBlanks`, `endOfLine?`, `skipSpace` — what stands between words.
* `Toml.string` — strings in single or double quotes, on one line or on several.
* `Toml.key` — the parts of a key; `Toml.deepest` — how many there may be.

A reader gives what it read and the text left, or nothing.
-/

namespace Toml

/-! ### Blanks and comments -/

/-- Whether a character may stand in a comment or a string. -/
def isText (c : Char) : Bool := c == '\t' || (0x20 ≤ c.toNat && c.toNat != 0x7F)

/-- The text without blanks at its start. -/
def skipBlanks (text : List Char) : List Char := text.dropWhile fun c => c == ' ' || c == '\t'

/-- A line end, with or without a carriage return. -/
def newline? : List Char → Option (List Char)
  | '\n' :: rest => some rest
  | '\r' :: '\n' :: rest => some rest
  | _ => none

/-- The text after a comment, where there is one. -/
def skipComment : List Char → List Char
  | '#' :: rest => rest.dropWhile isText
  | text => text

/-- What ends a statement: a comment perhaps, and the end of the line or of the text. -/
def endOfLine? (text : List Char) : Option (List Char) :=
  match skipComment (skipBlanks text) with
  | [] => some []
  | rest => newline? rest

/-- The text without blanks, comments and line ends at its start, for texts shorter than
`fuel`. -/
def skipSpace : (fuel : Nat) → List Char → List Char
  | 0, text => text
  | fuel + 1, text =>
    let rest := skipComment (skipBlanks text)
    match newline? rest with
    | some rest => skipSpace fuel rest
    | none => rest

/-! ### Strings -/

/-- The value of hexadecimal digits. -/
def hexNumber? (digits : List Char) : Option Nat :=
  digits.foldlM (fun n c =>
    if '0' ≤ c ∧ c ≤ '9' then some (16 * n + (c.toNat - '0'.toNat))
    else if 'a' ≤ c ∧ c ≤ 'f' then some (16 * n + (c.toNat - 'a'.toNat + 10))
    else if 'A' ≤ c ∧ c ≤ 'F' then some (16 * n + (c.toNat - 'A'.toNat + 10))
    else none) 0

/-- The character with a number of `count` digits. -/
def numbered (count : Nat) (text : List Char) : Option (Char × List Char) := do
  let digits := text.take count
  if digits.length < count then none
  else
    let n ← hexNumber? digits
    if n.isValidChar then some (Char.ofNat n, text.drop count) else none

/-- The character of an escape. -/
def escape : List Char → Option (Char × List Char)
  | 'b' :: rest => some ('\x08', rest)
  | 't' :: rest => some ('\t', rest)
  | 'n' :: rest => some ('\n', rest)
  | 'f' :: rest => some ('\x0c', rest)
  | 'r' :: rest => some ('\r', rest)
  | '"' :: rest => some ('"', rest)
  | '\\' :: rest => some ('\\', rest)
  | 'u' :: rest => numbered 4 rest
  | 'U' :: rest => numbered 8 rest
  | _ => none

/-- The rest of a string in double quotes. -/
def basicString : (fuel : Nat) → List Char → Option (List Char × List Char)
  | 0, _ => none
  | _, [] => none
  | fuel + 1, c :: rest =>
    if c = '"' then some ([], rest)
    else if c = '\\' then do
      let (d, rest) ← escape rest
      let (ds, rest) ← basicString fuel rest
      some (d :: ds, rest)
    else if isText c then do
      let (ds, rest) ← basicString fuel rest
      some (c :: ds, rest)
    else none

/-- The rest of a string in single quotes. -/
def literalString : List Char → Option (List Char × List Char)
  | [] => none
  | c :: rest =>
    if c = '\'' then some ([], rest)
    else if isText c then do
      let (ds, rest) ← literalString rest
      some (c :: ds, rest)
    else none

/-- The quotes that end a string of several lines: three, and before them up to two that belong
to the string. -/
def closing? (quote : Char) (text : List Char) : Option (List Char × List Char) :=
  let quotes := (text.takeWhile (· == quote)).length
  if quotes < 3 then none
  else
    let inside := min (quotes - 3) 2
    some (List.replicate inside quote, text.drop (inside + 3))

/-- The text without blanks and line ends at its start. -/
def skipBlankLines : List Char → List Char
  | ' ' :: rest | '\t' :: rest | '\n' :: rest | '\r' :: '\n' :: rest => skipBlankLines rest
  | text => text

/-- A backslash at the end of a line drops the line end and all blanks and line ends after it. -/
def continuation? (text : List Char) : Option (List Char) :=
  (newline? (skipBlanks text)).map skipBlankLines

/-- The rest of a string of several lines, with escapes when it stands in double quotes. -/
def longString (quote : Char) : (fuel : Nat) → List Char → Option (List Char × List Char)
  | 0, _ => none
  | _, [] => none
  | fuel + 1, c :: rest =>
    match closing? quote (c :: rest) with
    | some (inside, rest) => some (inside, rest)
    | none =>
      if c = '\\' ∧ quote = '"' then
        -- a backslash at the end of a line takes the line end and the blanks after it along
        match continuation? rest with
        | some rest => longString quote fuel rest
        | none => do
          let (d, rest) ← escape rest
          let (ds, rest) ← longString quote fuel rest
          some (d :: ds, rest)
      else
        match newline? (c :: rest) with
        | some rest => do
          let (ds, rest) ← longString quote fuel rest
          some ('\n' :: ds, rest)
        | none =>
          if isText c then do
            let (ds, rest) ← longString quote fuel rest
            some (c :: ds, rest)
          else none

/-- A string after its first quote; a line end right after three quotes is left out. -/
def string (quote : Char) (rest : List Char) : Option (String × List Char) := do
  let (cs, rest) ←
    if rest.take 2 = [quote, quote] then
      let inside := rest.drop 2
      let inside := (newline? inside).getD inside
      longString quote (inside.length + 1) inside
    else if quote = '"' then basicString (rest.length + 1) rest
    else literalString rest
  some (String.ofList cs, rest)

/-! ### Keys -/

/-- Whether a character may stand in a key without quotes. -/
def isBare (c : Char) : Bool := c.isAlphanum || c == '_' || c == '-'

/-- One part of a key. -/
def simpleKey (text : List Char) : Option (String × List Char) :=
  match text with
  | '"' :: rest =>
    (basicString (rest.length + 1) rest).map fun (cs, rest) => (String.ofList cs, rest)
  | '\'' :: rest => (literalString rest).map fun (cs, rest) => (String.ofList cs, rest)
  | text =>
    let bare := text.takeWhile isBare
    if bare.isEmpty then none else some (String.ofList bare, text.dropWhile isBare)

/-- Parts of a key with points between them, fewer than `fuel`. -/
def keyParts : (fuel : Nat) → List Char → Option (List String × List Char)
  | 0, _ => none
  | fuel + 1, text => do
    let (part, rest) ← simpleKey (skipBlanks text)
    match skipBlanks rest with
    | '.' :: rest =>
      let (parts, rest) ← keyParts fuel rest
      some (part :: parts, rest)
    | rest => some ([part], rest)

/-- How deep values may be nested, and how many parts a key may have. -/
def deepest : Nat := 79

/-- The parts of a key. -/
def key (text : List Char) : Option (List String × List Char) :=
  (keyParts text.length text).filter fun (parts, _) => parts.length ≤ deepest

end Toml

end TreeOutline
