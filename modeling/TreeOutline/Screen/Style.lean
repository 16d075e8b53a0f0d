namespace TreeOutline

/-!
# Styled text

* `Color`, `Style` — colours and emphasis; `Style.above` — one style on top of another.
* `Run`, `StyledLine` — text in one style, and a line made of such texts.
-/

/-- A colour of the terminal. -/
inductive Color where
  | black
  | red
  | yellow
  | blue
  | cyan
  | gray
  | darkGray
  | white
deriving DecidableEq, Repr

/-- The name of a colour. -/
def Color.text : Color → String
  | .black => "Black"
  | .red => "Red"
  | .yellow => "Yellow"
  | .blue => "Blue"
  | .cyan => "Cyan"
  | .gray => "Gray"
  | .darkGray => "DarkGray"
  | .white => "White"

/-- Colours and emphasis; a colour that is not set lets what is below show through. -/
structure Style where
  foreground : Option Color
  background : Option Color
  bold : Bool
  dim : Bool
deriving DecidableEq, Repr

namespace Style

/-- No colour and no emphasis. -/
def plain : Style := ⟨none, none, false, false⟩

instance : Inhabited Style := ⟨plain⟩

/-- Letters in a colour. -/
def letters (color : Color) : Style := { plain with foreground := some color }

/-- Letters in a colour on a ground in another. -/
def on (color ground : Color) : Style :=
  { plain with foreground := some color, background := some ground }

/-- The style in bold. -/
def inBold (style : Style) : Style := { style with bold := true }

/-- The style dimmed. -/
def dimmed (style : Style) : Style := { style with dim := true }

/-- `top` on top of `base`: its colours where it has them, and the emphasis of both. -/
def above (top base : Style) : Style :=
  ⟨top.foreground.or base.foreground, top.background.or base.background,
   top.bold || base.bold, top.dim || base.dim⟩

@[simp] theorem above_plain (style : Style) : style.above plain = style := by
  cases style; simp [above, plain]

@[simp] theorem plain_above (style : Style) : plain.above style = style := by
  cases style; simp [above, plain]

/-- The style in words: letters and ground, then the emphasis. -/
def text (style : Style) : String :=
  let color (c : Option Color) : String := (c.map Color.text).getD "-"
  color style.foreground ++ "/" ++ color style.background ++
    (if style.bold then " bold" else "") ++ (if style.dim then " dim" else "")

end Style

/-- Text in one style. -/
structure Run where
  text : List Char
  style : Style
deriving DecidableEq, Repr

/-- Text without a style. -/
def Run.plain (text : List Char) : Run := ⟨text, .plain⟩

/-- A line made of texts in their styles. -/
abbrev StyledLine := List Run

/-- The characters of a line. -/
def StyledLine.chars (line : StyledLine) : List Char := line.flatMap Run.text

end TreeOutline
