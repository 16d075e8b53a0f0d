namespace TreeOutline

/-!
# Key presses

* `KeyCode` — a named key or a character; `KeyPress` — with the modifiers held.
-/

/-- A key. -/
inductive KeyCode where
  | up
  | down
  | left
  | right
  | home
  | endOfLine
  | enter
  | tab
  | escape
  | backspace
  | function (n : Nat)
  | char (c : Char)
deriving DecidableEq, Repr

/-- A key and the modifiers held with it. -/
structure KeyPress where
  code : KeyCode
  shift : Bool
  control : Bool
  alt : Bool
deriving DecidableEq, Repr

namespace KeyPress

/-- Whether no modifier is held. -/
def isPlain (key : KeyPress) : Bool := !key.shift && !key.control && !key.alt

end KeyPress

end TreeOutline
