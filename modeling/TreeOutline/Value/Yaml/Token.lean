import TreeOutline.Value.Yaml.Cursor
import TreeOutline.Text.Utf8

namespace TreeOutline

/-!
# YAML tokens

* `Yaml.Token` — the marks and texts that a YAML text consists of.
* `Yaml.anchorName?`, `Yaml.tag?`, `Yaml.directive?` — the tokens with a name in them.
-/

namespace Yaml

/-- A token.  The end of the tokens is the end of the text. -/
inductive Token where
  | version (major minor : Nat)
  | tagHandle (handle expansion : String)
  | documentStart
  | documentEnd
  | blockListStart
  | blockMapStart
  | blockEnd
  | flowListStart
  | flowListEnd
  | flowMapStart
  | flowMapEnd
  | blockEntry
  | flowEntry
  | key
  | value
  | alias (name : String)
  | anchor (name : String)
  | tag (handle suffix : String)
  | scalar (isPlain : Bool) (text : String)
deriving DecidableEq, Repr

/-! ### Anchors -/

/-- The name behind the mark of an anchor or an alias. -/
def anchorName? (c : Cursor) : Option (String × Cursor) :=
  let (name, after) := c.next.span isWordChar
  let ends := isSpaced after.rest || after.rest.head?.any fun x =>
    x ∈ ['?', ':', ',', ']', '}', '%', '@', '\x60']
  if name.isEmpty || !ends then none else some (String.ofList name, after)

/-! ### Tags -/

/-- Whether a character may stand in a tag.  Tags in angle brackets may hold more. -/
def isTagChar (verbatim : Bool) (c : Char) : Bool :=
  isWordChar c || c ∈ [';', '/', '?', ':', '@', '&', '=', '+', '$', '.', '%', '!', '~', '*', '\'',
    '(', ')'] || (verbatim && c ∈ [',', '[', ']'])

/-- The byte that two hexadecimal digits stand for. -/
def hexByte? (high low : Char) : Option UInt8 :=
  let digit? (c : Char) : Option Nat :=
    if c.isDigit then some (c.toNat - '0'.toNat)
    else if 'a' ≤ c ∧ c ≤ 'f' then some (c.toNat - 'a'.toNat + 10)
    else if 'A' ≤ c ∧ c ≤ 'F' then some (c.toNat - 'A'.toNat + 10)
    else none
  do
    let h ← digit? high
    let l ← digit? low
    some (UInt8.ofNat (16 * h + l))

/-- The bytes of a tag's text, in which a percent sign stands in front of a byte in hexadecimal
digits. -/
def tagBytes? : List Char → Option Bytes
  | [] => some []
  | '%' :: high :: low :: rest => do
    let byte ← hexByte? high low
    let bytes ← tagBytes? rest
    some (byte :: bytes)
  | '%' :: _ => none
  | c :: rest => (tagBytes? rest).map (encodeChar c ++ ·)

/-- The text of a tag or of the rest of it behind `head`; it may not be empty without one. -/
def tagText? (verbatim : Bool) (head : List Char) (c : Cursor) : Option (String × Cursor) := do
  let (text, after) := c.span (isTagChar verbatim)
  if head.isEmpty ∧ text.isEmpty then none
  else
    let bytes ← tagBytes? text
    let text ← decodeText? bytes
    some (String.ofList (head.drop 1) ++ text, after)

/-- The handle at the start of a tag: an exclamation mark, a word, and perhaps another exclamation
mark. -/
def handle? (c : Cursor) : Option (List Char × Cursor) :=
  if ¬ c.sees '!' then none
  else
    let (word, after) := c.next.span isWordChar
    if after.sees '!' then some ('!' :: word ++ ['!'], after.next) else some ('!' :: word, after)

/-- Whether a handle ends in an exclamation mark of its own. -/
def isClosedHandle (handle : List Char) : Bool :=
  1 < handle.length && handle.getLast? == some '!'

/-- A tag.  One in angle brackets has no handle; one without a closed handle has the handle `!`,
and the lone exclamation mark has none. -/
def tag? (inFlow : Bool) (c : Cursor) : Option (Token × Cursor) := do
  let (tag, after) ←
    if c.next.sees '<' then do
      let (text, after) ← tagText? true [] (c.skip 2)
      if after.sees '>' then some (Token.tag "" text, after.next) else none
    else do
      let (handle, after) ← handle? c
      if isClosedHandle handle then do
        let (text, after) ← tagText? false [] after
        some (Token.tag (String.ofList handle) text, after)
      else do
        let (text, after) ← tagText? false handle after
        some (if text = "" then Token.tag "" "!" else Token.tag "!" text, after)
  if (inFlow ∧ after.sees ',') ∨ isSpaced after.rest then some (tag, after) else none

/-! ### Directives -/

/-- A number of at most nine digits. -/
def shortNumber? (c : Cursor) : Option (Nat × Cursor) :=
  let (digits, after) := c.span Char.isDigit
  if digits.isEmpty ∨ 9 < digits.length then none
  else some (digits.foldl (fun n d => 10 * n + (d.toNat - '0'.toNat)) 0, after)

/-- The version that a directive gives. -/
def version? (c : Cursor) : Option (Token × Cursor) := do
  let (major, c) ← shortNumber? (c.skipWhile isBlank)
  if ¬ c.sees '.' then none
  else
    let (minor, c) ← shortNumber? c.next
    some (.version major minor, c)

/-- The handle that a directive declares, and what it stands for. -/
def tagHandle? (c : Cursor) : Option (Token × Cursor) := do
  let (handle, c) ← handle? (c.skipWhile isBlank)
  if ¬ isClosedHandle handle ∧ handle ≠ ['!'] ∨ ¬ c.rest.head?.any isBlank then none
  else
    let (text, c) ← tagText? true [] (c.skipWhile isBlank)
    if isSpaced c.rest then some (.tagHandle (String.ofList handle) text, c) else none

/-- A directive, from its percent sign to the end of its line. -/
def directive? (c : Cursor) : Option (Token × Cursor) := do
  let (name, c) := c.next.span isWordChar
  if ¬ isSpaced c.rest then none
  else
    let (directive, c) ←
      if name = "YAML".toList then version? c
      else if name = "TAG".toList then tagHandle? c
      else none
    let c ← c.finishLine?
    some (directive, c)

end Yaml

end TreeOutline
