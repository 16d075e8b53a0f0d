import TreeOutline.Value.Yaml.Cursor

namespace TreeOutline

/-!
# The texts of YAML scalars

Each style has its own rule for line ends inside the text: between two lines of a flowing style one
line end counts as a space and of several the first is dropped.

* `Yaml.Gap` — blanks and line ends between two parts of a scalar; `Gap.text` is what they count as.
* `Yaml.plain?` — a scalar without quotes.
* `Yaml.quoted?` — a scalar in single or double quotes.
* `Yaml.block?` — a scalar on lines of its own.
-/

namespace Yaml

/-! ### Gaps -/

/-- Blanks and line ends between two parts of a scalar.  `broken` tells that a line has ended,
`first` is the line end itself unless it was masked. -/
structure Gap where
  blanks : List Char
  broken : Bool
  first : Option Char
  more : List Char

namespace Gap

/-- No gap yet; `masked` tells that a line end has been masked just before. -/
def initial (masked : Bool) : Gap := ⟨[], masked, none, []⟩

/-- Takes a line end in. -/
def withBreak (gap : Gap) (c : Char) : Gap :=
  if gap.broken then { gap with more := gap.more ++ [c] } else ⟨[], true, some c, []⟩

/-- What the gap counts as. -/
def text (gap : Gap) : List Char :=
  if ¬ gap.broken then gap.blanks
  else if gap.first = some '\n' then (if gap.more.isEmpty then [' '] else gap.more)
  else gap.first.toList ++ gap.more

/-- Reads a gap.  After a line end no tab may stand left of column `limit`. -/
def read? (limit : Nat) (gap : Gap) (c : Cursor) : Option (Gap × Cursor) :=
  match _h : c.rest with
  | [] => some (gap, c)
  | x :: _ =>
    if isBreak x then read? limit (gap.withBreak x) c.next
    else if ¬ isBlank x then some (gap, c)
    else if ¬ gap.broken then read? limit { gap with blanks := gap.blanks ++ [x] } c.next
    else if x = '\t' ∧ c.column < limit then none
    else read? limit gap c.next
termination_by c.rest.length
decreasing_by all_goals exact Cursor.next_shorter _h

end Gap

/-! ### Plain scalars -/

/-- Whether a character is one of those that structure flow collections. -/
def isFlowMark (c : Char) : Bool := c == ',' || c == '[' || c == ']' || c == '{' || c == '}'

/-- The characters up to the next blank, line end, or mark that ends a plain scalar. -/
def plainWord? (inFlow : Bool) (c : Cursor) : Option (List Char × Cursor) :=
  match _h : c.rest with
  | [] => some ([], c)
  | x :: rest =>
    if isBlank x || isBreak x then some ([], c)
    else if inFlow && x == ':' && rest.head?.any (fun y => isFlowMark y || y == '?') then none
    else if (x == ':' && isSpaced rest) || (inFlow && isFlowMark x) then some ([], c)
    else (plainWord? inFlow c.next).map fun (word, after) => (x :: word, after)
termination_by c.rest.length
decreasing_by exact Cursor.next_shorter _h

/-- The gaps and words after the first word, at most `fuel` of them; the flag tells that a line has
ended behind the last word. -/
def plainRest? (inFlow : Bool) (indent : Nat) : (fuel : Nat) → Cursor →
    Option (List Char × Bool × Cursor)
  | 0, c => some ([], false, c)
  | fuel + 1, c => do
    let (gap, after) ← (Gap.initial false).read? indent c
    if ¬ inFlow ∧ after.column < indent ∨ after.atMarker ∨ after.sees '#' then
      some ([], gap.broken, after)
    else
      let (word, later) ← plainWord? inFlow after
      if word.isEmpty then some ([], gap.broken, after)
      else
        let (text, broken, finish) ← plainRest? inFlow indent fuel later
        some (gap.text ++ word ++ text, broken, finish)

/-- A plain scalar; outside of flow collections its lines keep to column `indent` or further right.
The flag tells that a line has ended behind it. -/
def plain? (inFlow : Bool) (indent : Nat) (c : Cursor) : Option (String × Bool × Cursor) := do
  let (word, after) ← plainWord? inFlow c
  let (text, broken, finish) ← plainRest? inFlow indent (after.rest.length + 1) after
  some (String.ofList (word ++ text), broken, finish)

/-! ### Quoted scalars -/

/-- The number that hexadecimal digits stand for. -/
def hexValue? (digits : List Char) : Option Nat :=
  digits.foldlM (fun n c =>
    if c.isDigit then some (16 * n + (c.toNat - '0'.toNat))
    else if 'a' ≤ c ∧ c ≤ 'f' then some (16 * n + (c.toNat - 'a'.toNat + 10))
    else if 'A' ≤ c ∧ c ≤ 'F' then some (16 * n + (c.toNat - 'A'.toNat + 10))
    else none) 0

/-- The character that the letter after a backslash stands for. -/
def namedEscape? : Char → Option Char
  | '0' => some '\x00'
  | 'a' => some '\x07'
  | 'b' => some '\x08'
  | 't' | '\t' => some '\t'
  | 'n' => some '\n'
  | 'v' => some '\x0b'
  | 'f' => some '\x0c'
  | 'r' => some '\r'
  | 'e' => some '\x1b'
  | ' ' => some ' '
  | '"' => some '"'
  | '/' => some '/'
  | '\\' => some '\\'
  | 'N' => some '\x85'
  | '_' => some '\xa0'
  | 'L' => some '\u2028'
  | 'P' => some '\u2029'
  | _ => none

/-- How many hexadecimal digits follow the letter after a backslash. -/
def escapeLength? : Char → Option Nat
  | 'x' => some 2
  | 'u' => some 4
  | 'U' => some 8
  | _ => none

/-- The character that an escape stands for, and how many characters follow its backslash. -/
def escape? : List Char → Option (Char × Nat)
  | [] => none
  | letter :: rest =>
    match namedEscape? letter with
    | some c => some (c, 1)
    | none => do
      let length ← escapeLength? letter
      if rest.length < length then none
      else
        let n ← hexValue? (rest.take length)
        if n.isValidChar then some (Char.ofNat n, length + 1) else none

/-- The characters up to the next blank or line end, or to the closing quote, at most `fuel` of
them; the flag tells that a masked line end came last. -/
def quotedWord? (single : Bool) : (fuel : Nat) → Cursor → Option (List Char × Bool × Cursor)
  | 0, c => some ([], false, c)
  | fuel + 1, c =>
    let andThen (x : Char) (after : Cursor) : Option (List Char × Bool × Cursor) :=
      (quotedWord? single fuel after).map fun (word, rest) => (x :: word, rest)
    match single, c.rest with
    | _, [] => some ([], false, c)
    -- in single quotes a quote is doubled, in double quotes it is escaped
    | true, '\'' :: '\'' :: _ => andThen '\'' (c.skip 2)
    | true, '\'' :: _ => some ([], false, c)
    | false, '"' :: _ => some ([], false, c)
    | false, '\\' :: rest =>
      -- an escaped line end joins the two lines without a blank
      if rest.head?.any isBreak then some ([], true, c.skip 2)
      else do
        let (x, length) ← escape? rest
        andThen x (c.skip (length + 1))
    | _, x :: _ => if isBlank x || isBreak x then some ([], false, c) else andThen x c.next

/-- The text up to the closing quote, of at most `fuel` words. -/
def quotedText? (single : Bool) : (fuel : Nat) → Cursor → Option (List Char × Cursor)
  | 0, _ => none
  | fuel + 1, c =>
    if c.atMarker ∨ c.rest.isEmpty then none
    else do
      let (word, masked, after) ← quotedWord? single c.rest.length c
      if after.sees (if single then '\'' else '"') then some (word, after.next)
      else
        let (gap, later) ← (Gap.initial masked).read? 0 after
        let (text, finish) ← quotedText? single fuel later
        some (word ++ gap.text ++ text, finish)

/-- A scalar in quotes, from its opening quote on. -/
def quoted? (single : Bool) (c : Cursor) : Option (String × Cursor) := do
  let (text, after) ← quotedText? single (c.rest.length + 1) c.next
  some (String.ofList text, after)

/-! ### Block scalars -/

/-- What is kept of the line ends at the end of a block scalar. -/
inductive Chomping where
  | strip
  | clip
  | keep
deriving DecidableEq, Repr

/-- The chomping that a mark asks for. -/
def Chomping.ofMark? : Char → Option Chomping
  | '+' => some .keep
  | '-' => some .strip
  | _ => none

/-- The marks behind a block scalar's indicator: chomping and indentation, in either order. -/
def blockMarks? (c : Cursor) : Option (Chomping × Option Nat × Cursor) :=
  let digit? (c : Char) : Option (Option Nat) :=
    if ¬ c.isDigit then some none
    else if c = '0' then none
    else some (some (c.toNat - '0'.toNat))
  -- the two marks may come in either order
  match c.rest with
  | [] => some (.clip, none, c)
  | x :: rest =>
    match Chomping.ofMark? x with
    | some chomping => do
      match ← digit? (rest.headD ' ') with
      | some width => some (chomping, some width, c.skip 2)
      | none => some (chomping, none, c.next)
    | none => do
      match ← digit? x with
      | some width =>
        match rest.head?.bind Chomping.ofMark? with
        | some chomping => some (chomping, some width, c.skip 2)
        | none => some (.clip, some width, c.next)
      | none => some (.clip, none, c)

/-- Spaces left of the column `indent` — all spaces, if it is not known yet — and empty lines.
Gives the line ends, the widest indentation, and the first line that is not empty. -/
def emptyLines? (indent : Option Nat) : (fuel : Nat) → (widest : Nat) → Cursor →
    Option (List Char × Nat × Cursor)
  | 0, widest, c => some ([], widest, c)
  | fuel + 1, widest, c =>
    let spaces := (c.rest.takeWhile (· = ' ')).length
    let after := c.skip (match indent with
      | some indent => min spaces (indent - c.column)
      | none => spaces)
    let widest := max widest after.column
    match after.rest with
    | [] => some ([], widest, after)
    | x :: _ =>
      -- a tab cannot stand for indentation
      if x = '\t' ∧ indent.all (after.column < ·) then none
      else if isBreak x then
        (emptyLines? indent fuel widest after.next).map fun (breaks, more) => (x :: breaks, more)
      else some ([], widest, after)

/-- The lines of a block scalar, at most `fuel` of them: the text before the last line end, that
line end, and those of the empty lines behind it. -/
def blockLines? (folded : Bool) (indent : Nat) : (fuel : Nat) → (ending : Option Char) →
    (empty : List Char) → (afterBlank : Bool) → Cursor →
    Option (List Char × Option Char × List Char × Cursor)
  | 0, ending, empty, _, c => some ([], ending, empty, c)
  | fuel + 1, ending, empty, afterBlank, c =>
    if c.column ≠ indent ∨ c.rest.isEmpty then some ([], ending, empty, c)
    else do
      let blank := c.rest.head?.any isBlank
      -- one line end between two full lines folds into a blank, of more the first is left out
      let joint :=
        if folded ∧ ending = some '\n' ∧ ¬ afterBlank ∧ ¬ blank then
          (if empty.isEmpty then [' '] else [])
        else ending.toList
      let (line, after) := c.span (!isBreak ·)
      let (breaks, _, later) ← emptyLines? (some indent) c.rest.length 0 after.next
      let (text, result) ← blockLines? folded indent fuel after.rest.head? breaks blank later
      some (joint ++ empty ++ line ++ text, result)

/-- A block scalar, from its indicator on, inside of a block whose content begins at column
`least`. -/
def block? (folded : Bool) (least : Nat) (c : Cursor) : Option (String × Cursor) := do
  let (chomping, width, c) ← blockMarks? c.next
  let c ← c.finishLine?
  let fuel := c.rest.length + 1
  let (empty, widest, c) ← emptyLines? (width.map (least - 1 + ·)) fuel 0 c
  let indent := match width with
    | some width => least - 1 + width
    | none => max widest (max least 1)
  let (text, ending, empty, c) ← blockLines? folded indent fuel none empty false c
  let tail := match chomping with
    | .strip => []
    | .clip => ending.toList
    | .keep => ending.toList ++ empty
  some (String.ofList (text ++ tail), c)

end Yaml

end TreeOutline
