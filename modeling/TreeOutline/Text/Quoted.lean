import TreeOutline.Text.Table.Grouping
import TreeOutline.Text.Table.Hidden

namespace TreeOutline

/-!
# Quoted text in messages

* `quoteChar` — one character inside quotes.
* `quoteText` — a text between quotes, on one line and with every character visible.
-/

/-- Whether a character is a mark that a quote would hide: those that change the tone of a skin and
the halfwidth voicing marks have pictures of their own. -/
def isHiddenMark (c : Char) : Bool :=
  inRanges extendRanges c && !(0x1F3FB ≤ c.toNat && c.toNat ≤ 0x1F3FF) &&
    !(0xFF9E ≤ c.toNat && c.toNat ≤ 0xFF9F)

/-- Whether a character can be shown as it is. -/
def isVisible (c : Char) : Bool := !inRanges hiddenRanges c && !isHiddenMark c

/-- Inside quotes, quotes and backslashes are escaped, four controls have a letter, and every
other character that cannot be shown is written by its number. -/
def quoteChar (c : Char) : List Char :=
  match c with
  | '\x00' => ['\\', '0']
  | '\t' => ['\\', 't']
  | '\r' => ['\\', 'r']
  | '\n' => ['\\', 'n']
  | '"' => ['\\', '"']
  | '\\' => ['\\', '\\']
  | c =>
    if isVisible c then [c]
    else ['\\', 'u', '\x7b'] ++ Nat.toDigits 16 c.toNat ++ ['\x7d']

/-- A text between quotes. -/
def quoteText (s : String) : String :=
  String.ofList ('"' :: s.toList.flatMap quoteChar ++ ['"'])

end TreeOutline
