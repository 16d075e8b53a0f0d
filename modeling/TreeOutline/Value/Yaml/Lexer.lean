import TreeOutline.Value.Yaml.Scalar
import TreeOutline.Value.Yaml.Token

namespace TreeOutline

/-!
# The tokens of a YAML text

Blocks have no marks of their own: they begin where a line is indented further and end where one is
indented less.  Nor has a short key: that a node was one shows only at the colon behind it.  So the
lexer remembers where the last node began that could be a key.

* `Yaml.Candidate` — a place where a key may have begun.
* `Yaml.Lexer` — the tokens so far, the open blocks and the candidates.
* `Yaml.tokens?` — the tokens of a text.
-/

namespace Yaml

/-- A place where a key may have begun, and the number of tokens before it.  A node that begins a
line of a block of keys has to be a key. -/
structure Candidate where
  tokensBefore : Nat
  line : Nat
  column : Nat
  octets : Nat
  required : Bool
deriving Repr

/-- What is known at a place of the text: the tokens before it, the columns of the blocks that are
open, innermost first, the candidate of this flow level and those of the levels around it, and
whether a key may begin here. -/
structure Lexer where
  cursor : Cursor
  tokens : Array Token
  blocks : List Nat
  candidate : Option Candidate
  outer : List (Option Candidate)
  keyAllowed : Bool

/-- The longest distance in octets between the start of a key and its colon. -/
def longestKey : Nat := 1024

namespace Lexer

/-- The start of a text. -/
def start (text : List Char) : Lexer := ⟨.start text, #[], [], none, [], true⟩

/-- Whether the place is inside of a flow collection. -/
def inFlow (s : Lexer) : Bool := !s.outer.isEmpty

/-- The least column of what belongs to the innermost block. -/
def indent (s : Lexer) : Nat :=
  match s.blocks with
  | [] => 0
  | column :: _ => column + 1

/-- Adds a token that ends at a place. -/
def emit (s : Lexer) (token : Token) (cursor : Cursor) : Lexer :=
  { s with tokens := s.tokens.push token, cursor }

/-! ### Candidates -/

/-- Gives up the candidate of this level; `none` when it had to be a key. -/
def dropCandidate? (s : Lexer) : Option Lexer :=
  if s.candidate.any (·.required) then none else some { s with candidate := none }

/-- Makes this place the candidate of its level, where a key may begin. -/
def markCandidate? (s : Lexer) : Option Lexer :=
  if ¬ s.keyAllowed then some s
  else do
    let s ← s.dropCandidate?
    let ⟨_, line, column, octets⟩ := s.cursor
    let required := !s.inFlow && s.blocks.head? == some column
    some { s with candidate := some ⟨s.tokens.size, line, column, octets, required⟩ }

/-- Whether a candidate can still be a key: on the same line and not too far away. -/
def isAlive (s : Lexer) (candidate : Candidate) : Bool :=
  candidate.line == s.cursor.line && s.cursor.octets ≤ candidate.octets + longestKey

/-- Forgets the candidates that cannot be keys any more; `none` when one of them had to be. -/
def expire? (s : Lexer) : Option Lexer :=
  let isOverdue (candidate : Option Candidate) : Bool :=
    candidate.any fun key => key.required && !s.isAlive key
  if isOverdue s.candidate || s.outer.any isOverdue then none
  else some { s with
    candidate := s.candidate.filter s.isAlive
    outer := s.outer.map (·.filter s.isAlive) }

/-! ### Blocks -/

/-- Opens a block at a column, if it lies further right than the innermost one. -/
def openBlock (s : Lexer) (column : Nat) (start : Token) : Lexer :=
  if s.inFlow ∨ column < s.indent then s
  else { s with blocks := column :: s.blocks, tokens := s.tokens.push start }

/-- Closes the blocks at a column and right of it. -/
def closeBlocks (s : Lexer) (column : Nat) : Lexer :=
  if s.inFlow then s
  else
    let closed := (s.blocks.takeWhile (column ≤ ·)).length
    { s with
      blocks := s.blocks.drop closed
      tokens := s.tokens ++ Array.replicate closed Token.blockEnd }

/-! ### Tokens -/

/-- Skips blanks, comments and line ends.  A tab counts as a blank only where no key may begin. -/
def skipSpace (s : Lexer) : (fuel : Nat) → Lexer
  | 0 => s
  | fuel + 1 =>
    let c := s.cursor
    let c := if c.column = 0 ∧ c.sees orderMark then { c.next with column := 1 } else c
    let tabs := s.inFlow || !s.keyAllowed
    let c := c.skipWhile fun x => x == ' ' || (tabs && x == '\t')
    let c := if c.sees '#' then c.skipWhile (!isBreak ·) else c
    if c.rest.head?.any isBreak then
      skipSpace { s with cursor := c.next, keyAllowed := s.keyAllowed || !s.inFlow } fuel
    else { s with cursor := c }

/-- A directive or a mark between documents: it closes all blocks. -/
def betweenDocuments? (s : Lexer) (token : Token) (after : Cursor) : Option Lexer := do
  let s ← (s.closeBlocks 0).dropCandidate?
  some { s.emit token after with keyAllowed := false }

/-- The start of a flow collection. -/
def openFlow? (s : Lexer) (token : Token) : Option Lexer := do
  let s ← s.markCandidate?
  some { s.emit token s.cursor.next with
    candidate := none, outer := s.candidate :: s.outer, keyAllowed := true }

/-- The end of a flow collection. -/
def closeFlow? (s : Lexer) (token : Token) : Option Lexer := do
  let s ← s.dropCandidate?
  some { s.emit token s.cursor.next with
    candidate := s.outer.headD none, outer := s.outer.drop 1, keyAllowed := false }

/-- The comma of a flow collection. -/
def flowEntry? (s : Lexer) : Option Lexer := do
  let s ← s.dropCandidate?
  some { s.emit .flowEntry s.cursor.next with keyAllowed := true }

/-- The mark in front of an item of a block. -/
def blockEntry? (s : Lexer) : Option Lexer := do
  if ¬ s.inFlow ∧ ¬ s.keyAllowed then none
  else
    let s ← (s.openBlock s.cursor.column .blockListStart).dropCandidate?
    some { s.emit .blockEntry s.cursor.next with keyAllowed := true }

/-- The mark in front of a key. -/
def explicitKey? (s : Lexer) : Option Lexer := do
  if ¬ s.inFlow ∧ ¬ s.keyAllowed then none
  else
    let s ← (s.openBlock s.cursor.column .blockMapStart).dropCandidate?
    some { s.emit .key s.cursor.next with keyAllowed := !s.inFlow }

/-- The candidate is a key: its mark goes in front of it, and the start of a block in front of
that, if it begins one. -/
def confirm (s : Lexer) (candidate : Candidate) : Lexer :=
  let before := s.tokens.extract 0 candidate.tokensBefore
  let since := s.tokens.extract candidate.tokensBefore s.tokens.size
  let s := { s with tokens := before }.openBlock candidate.column .blockMapStart
  { s with tokens := s.tokens.push .key ++ since, candidate := none }

/-- The mark in front of a value. -/
def mapValue? (s : Lexer) : Option Lexer :=
  match s.candidate with
  | some candidate =>
    some { (s.confirm candidate).emit .value s.cursor.next with keyAllowed := false }
  | none =>
    if ¬ s.inFlow ∧ ¬ s.keyAllowed then none
    else
      let s := s.openBlock s.cursor.column .blockMapStart
      some { s.emit .value s.cursor.next with keyAllowed := !s.inFlow }

/-- An alias or an anchor. -/
def named? (s : Lexer) (token : String → Token) : Option Lexer := do
  let s ← s.markCandidate?
  let (name, after) ← anchorName? s.cursor
  some { s.emit (token name) after with keyAllowed := false }

/-- A tag. -/
def tagged? (s : Lexer) : Option Lexer := do
  let s ← s.markCandidate?
  let (token, after) ← tag? s.inFlow s.cursor
  some { s.emit token after with keyAllowed := false }

/-- A block scalar. -/
def blockScalar? (s : Lexer) (folded : Bool) : Option Lexer := do
  let s ← s.dropCandidate?
  let (text, after) ← block? folded s.indent s.cursor
  some { s.emit (.scalar false text) after with keyAllowed := true }

/-- A scalar in quotes. -/
def quotedScalar? (s : Lexer) (single : Bool) : Option Lexer := do
  let s ← s.markCandidate?
  let (text, after) ← quoted? single s.cursor
  some { s.emit (.scalar false text) after with keyAllowed := false }

/-- A plain scalar; behind its last line a key may begin. -/
def plainScalar? (s : Lexer) : Option Lexer := do
  let s ← s.markCandidate?
  let (text, broken, after) ← plain? s.inFlow s.indent s.cursor
  some { s.emit (.scalar true text) after with keyAllowed := broken }

/-- Characters that no plain scalar begins with. -/
def marks : List Char :=
  ['-', '?', ':', ',', '[', ']', '{', '}', '#', '&', '*', '!', '|', '>', '\'', '"', '%', '@',
    '\x60']

/-- The token that begins here with the character `x`; `rest` is what follows it. -/
def token? (s : Lexer) (x : Char) (rest : List Char) : Option Lexer :=
  if s.cursor.column = 0 ∧ x = '%' then do
    let (token, after) ← directive? s.cursor
    s.betweenDocuments? token after
  else if s.cursor.atMarker then
    s.betweenDocuments? (if x = '-' then .documentStart else .documentEnd) (s.cursor.skip 3)
  else
    match x with
    | '[' => s.openFlow? .flowListStart
    | '{' => s.openFlow? .flowMapStart
    | ']' => s.closeFlow? .flowListEnd
    | '}' => s.closeFlow? .flowMapEnd
    | ',' => s.flowEntry?
    | '*' => s.named? .alias
    | '&' => s.named? .anchor
    | '!' => s.tagged?
    | '\'' => s.quotedScalar? true
    | '"' => s.quotedScalar? false
    -- a mark only with a blank behind it, else it begins a plain text
    | '-' => if isSpaced rest then s.blockEntry? else s.plainScalar?
    | '?' =>
      if s.inFlow || isSpaced rest then s.explicitKey? else s.plainScalar?
    | ':' =>
      if s.inFlow || isSpaced rest then s.mapValue? else s.plainScalar?
    | '|' => if s.inFlow then none else s.blockScalar? false
    | '>' => if s.inFlow then none else s.blockScalar? true
    | x => if isBlank x || isBreak x || x ∈ marks then none else s.plainScalar?

/-- The tokens from here to the end of the text, at most `fuel` of them. -/
def run? : (fuel : Nat) → Lexer → Option (Array Token)
  | 0, _ => none
  | fuel + 1, s => do
    let s := s.skipSpace (s.cursor.rest.length + 1)
    let s ← s.expire?
    let s := s.closeBlocks (s.cursor.column + 1)
    match s.cursor.rest with
    | [] => (s.closeBlocks 0).dropCandidate?.map (·.tokens)
    | x :: rest =>
      let s ← s.token? x rest
      run? fuel s

end Lexer

/-- The tokens of a text. -/
def tokens? (text : String) : Option (Array Token) := do
  let chars ← linesOf? text
  (Lexer.start chars).run? (chars.length + 1)

end Yaml

end TreeOutline
