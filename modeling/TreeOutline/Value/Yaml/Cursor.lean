namespace TreeOutline

/-!
# A place in a YAML text

* `Yaml.linesOf?` — the characters of a text whose line ends are all written alike.
* `Yaml.Cursor` — the rest of a text with the line and column where it begins.
* `Yaml.Cursor.next` — one character further; `next_shorter` — there is less left then.
-/

namespace Yaml

/-! ### Characters -/

/-- Whether a character may stand in a text at all: no control characters but tabs and line ends,
and no code points that are no characters. -/
def isAllowed (c : Char) : Bool :=
  let n := c.toNat
  n == 0x9 || n == 0xA || n == 0xD || n == 0x85 || (0x20 ≤ n && n ≤ 0x7E) ||
    (0xA0 ≤ n && n ≤ 0xD7FF) || (0xE000 ≤ n && n ≤ 0xFFFD) || 0x10000 ≤ n

/-- Writes the ends of lines as line feeds: the pair of carriage return and line feed, a lone
carriage return, and the next-line character. -/
def plainBreaks : List Char → List Char
  | '\r' :: '\n' :: rest => '\n' :: plainBreaks rest
  | '\r' :: rest => '\n' :: plainBreaks rest
  | c :: rest => (if c = '\x85' then '\n' else c) :: plainBreaks rest
  | [] => []

/-- The characters of a text, if all of them are allowed, with plain ends of lines. -/
def linesOf? (text : String) : Option (List Char) :=
  if text.toList.all isAllowed then some (plainBreaks text.toList) else none

/-- Whether a character ends a line. -/
def isBreak (c : Char) : Bool := c == '\n' || c == '\u2028' || c == '\u2029'

/-- Whether a character is a space or a tab. -/
def isBlank (c : Char) : Bool := c == ' ' || c == '\t'

/-- Whether a character may stand in the name of an anchor, a tag handle or a directive. -/
def isWordChar (c : Char) : Bool := c.isAlphanum || c == '_' || c == '-'

/-- The byte order mark, which may begin a line. -/
def orderMark : Char := '\ufeff'

/-- Whether what follows begins with a blank or a line end, or is nothing at all. -/
def isSpaced : List Char → Bool
  | [] => true
  | c :: _ => isBlank c || isBreak c

/-! ### Places -/

/-- The rest of a text and where it begins; lines and columns count from zero.  Lengths are measured
in octets. -/
structure Cursor where
  rest : List Char
  line : Nat
  column : Nat
  /-- The octets of the line that are behind. -/
  octets : Nat
deriving Repr

namespace Cursor

/-- The start of a text. -/
def start (text : List Char) : Cursor := ⟨text, 0, 0, 0⟩

/-- One character further. -/
def next (c : Cursor) : Cursor :=
  match c.rest with
  | [] => c
  | x :: rest =>
    if isBreak x then ⟨rest, c.line + 1, 0, 0⟩
    else ⟨rest, c.line, c.column + 1, c.octets + x.utf8Size⟩

/-- Further by some characters. -/
def skip : (count : Nat) → Cursor → Cursor
  | 0, c => c
  | count + 1, c => skip count c.next

/-- There is less left after one step. -/
theorem next_shorter {c : Cursor} {x : Char} {rest : List Char} (h : c.rest = x :: rest) :
    c.next.rest.length < c.rest.length := by
  unfold next
  rw [h]
  by_cases hx : isBreak x <;> simp [hx]

/-- The longest run of characters of a kind, and the place after it. -/
def span (p : Char → Bool) (c : Cursor) : List Char × Cursor :=
  let run := c.rest.takeWhile p
  (run, c.skip run.length)

/-- The place after all characters of a kind. -/
def skipWhile (p : Char → Bool) (c : Cursor) : Cursor := (c.span p).2

/-- Whether the next character is the one given. -/
def sees (c : Cursor) (x : Char) : Bool := c.rest.head? == some x

/-- Whether nothing is left on the line. -/
def atLineEnd (c : Cursor) : Bool := c.rest.head?.all isBreak

/-- Whether three characters that stand for a document's start or end begin the line. -/
def atMarker (c : Cursor) : Bool :=
  c.column == 0 && match c.rest with
    | '-' :: '-' :: '-' :: rest => isSpaced rest
    | '.' :: '.' :: '.' :: rest => isSpaced rest
    | _ => false

/-- The place after blanks and a comment; `none` when the line holds something else. -/
def finishLine? (c : Cursor) : Option Cursor :=
  let c := c.skipWhile isBlank
  let c := if c.sees '#' then c.skipWhile (!isBreak ·) else c
  if c.atLineEnd then some c.next else none

end Cursor

end Yaml

end TreeOutline
