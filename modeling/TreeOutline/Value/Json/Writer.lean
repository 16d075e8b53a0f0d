import TreeOutline.Value.Basic
import TreeOutline.Number.Shortest

namespace TreeOutline

/-!
# Compact document text

* `Json.escaped` — one character inside quotes.
* `Json.quoted` — a quoted string.
* `Json.textOf`, `Json.write` — the text of a value, without blanks and on one line.
-/

namespace Json

/-- A hexadecimal digit in lower case. -/
def hexDigit (n : Nat) : Char := Nat.digitChar n

/-- Inside quotes a quote, a backslash and the control characters below the blank are escaped;
every other character stands for itself. -/
def escaped (c : Char) : List Char :=
  match c with
  | '"' => ['\\', '"']
  | '\\' => ['\\', '\\']
  | '\x08' => ['\\', 'b']
  | '\t' => ['\\', 't']
  | '\n' => ['\\', 'n']
  | '\x0c' => ['\\', 'f']
  | '\r' => ['\\', 'r']
  | c =>
    if c.toNat < 0x20 then ['\\', 'u', '0', '0', hexDigit (c.toNat / 16), hexDigit (c.toNat % 16)]
    else [c]

/-- A string between quotes. -/
def quoted (s : String) : List Char := '"' :: s.toList.flatMap escaped ++ ['"']

/-- The text of a number with a fraction.  Infinities and no number have none. -/
def floatText (x : Binary64) : List Char :=
  match x.jsonText with
  | some text => text.toList
  | none => "null".toList

mutual

/-- The text of a value. -/
def textOf : Value → List Char
  | .null => "null".toList
  | .bool true => "true".toList
  | .bool false => "false".toList
  | .int n => (toString n).toList
  | .float x => floatText x
  | .str s => quoted s
  | .list items => '[' :: itemsText items ++ [']']
  | .map fields => '\x7b' :: fieldsText fields ++ ['\x7d']

/-- The items with commas between them. -/
def itemsText : List Value → List Char
  | [] => []
  | [item] => textOf item
  | item :: rest => textOf item ++ ',' :: itemsText rest

/-- The fields with commas between them. -/
def fieldsText : List (String × Value) → List Char
  | [] => []
  | [(name, value)] => quoted name ++ ':' :: textOf value
  | (name, value) :: rest => quoted name ++ ':' :: textOf value ++ ',' :: fieldsText rest

end

/-- The compact text of a value. -/
def write (value : Value) : String := String.ofList (textOf value)

end Json

end TreeOutline
