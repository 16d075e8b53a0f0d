import TreeOutline.Screen.Style
import TreeOutline.Text.Columns

namespace TreeOutline

/-!
# Canvases

* `Cell`, `Canvas` — the squares of the screen, row by row.
* `Canvas.blank`, `beside`, `above` — making canvases and putting them together.
* `Glyph`, `glyphs` — what takes squares, as a line is laid out.
* `Canvas.ofRows`, `Canvas.ofLines` — lines from the top left corner, as they are or cut at the
  width.
* `Canvas.framed` — a canvas in a box with a title.
* `Canvas.shown` — the canvas as the terminal shows it.
-/

/-- One square: what it shows and how. -/
structure Cell where
  text : List Char
  style : Style
deriving DecidableEq, Repr

/-- An empty square. -/
def Cell.blank (style : Style) : Cell := ⟨[' '], style⟩

/-- Rows of squares from top to bottom. -/
abbrev Canvas := List (List Cell)

/-- Something that takes squares in a line: a character as it is seen. -/
structure Glyph where
  text : List Char
  style : Style
deriving DecidableEq, Repr

namespace Glyph

/-- The number of squares it takes. -/
def width (glyph : Glyph) : Nat := columns glyph.text

/-- Its squares on a ground: after the first, the ground shows. -/
def cells (base : Style) (glyph : Glyph) : List Cell :=
  if glyph.width = 0 then []
  else ⟨glyph.text, glyph.style.above base⟩ :: List.replicate (glyph.width - 1) (.blank base)

end Glyph

/-- The number of squares of glyphs in a row. -/
def totalWidth : (glyphs : List Glyph) → Nat
  | [] => 0
  | glyph :: rest => glyph.width + totalWidth rest

/-- A line as glyphs; line ends in it are left out. -/
def glyphs (line : StyledLine) : List Glyph :=
  line.flatMap fun run =>
    ((clusters run.text).filter (· ≠ ['\n'])).map fun group => ⟨group, run.style⟩

/-- As many glyphs as fit, up to the first that does not.  A glyph that is wider than the whole
line is passed over. -/
def fitting : (room : Nat) → (glyphs : List Glyph) → (width : Nat) → List Glyph
  | _, [], _ => []
  | room, glyph :: rest, width =>
    if width < glyph.width then fitting room rest width
    else if room < glyph.width then []
    else glyph :: fitting (room - glyph.width) rest width

namespace Canvas

/-- Empty squares. -/
def blank (width height : Nat) (style : Style) : Canvas :=
  List.replicate height (List.replicate width (.blank style))

/-- The second canvas to the right of the first. -/
def beside (left right : Canvas) : Canvas := List.zipWith (· ++ ·) left right

/-- The second canvas below the first. -/
def above (top bottom : Canvas) : Canvas := top ++ bottom

/-- One line of squares, cut at the width and filled up to it. -/
def row (width : Nat) (base : Style) (line : List Glyph) : List Cell :=
  let cells := (line.flatMap (Glyph.cells base)).take width
  cells ++ List.replicate (width - cells.length) (.blank base)

/-- Lines from the top left corner, each laid out for the width already; a glyph that starts in the
last square keeps it however wide it is. -/
def ofRows (width height : Nat) (base : Style) (lines : List (List Glyph)) : Canvas :=
  let rows := if width = 0 then [] else (lines.take height).map (row width base)
  rows ++ blank width (height - rows.length) base

/-- Lines from the top left corner, of each as many glyphs as fit. -/
def ofLines (width height : Nat) (base : Style) (lines : List (List Glyph)) : Canvas :=
  ofRows width height base (lines.map (fitting width · width))

/-- Squares without a style. -/
def bare (text : List Char) : List Cell := text.map fun c => ⟨[c], .plain⟩

/-- A box with a title around what `inside` draws in the room that is left. -/
def framed (width height : Nat) (title : List Char) (inside : (width height : Nat) → Canvas) :
    Canvas :=
  let innerWidth := width - 2
  let innerHeight := height - 2
  let name := title.take innerWidth
  let top := bare ('┌' :: name ++ List.replicate (innerWidth - name.length) '─' ++ ['┐'])
  let bottom := bare ('└' :: List.replicate innerWidth '─' ++ ['┘'])
  let side := List.replicate innerHeight (bare ['│'])
  let middle := (beside side (inside innerWidth innerHeight)).beside side
  ((top :: middle ++ [bottom]).take height).map (·.take width)

/-- The squares of a row as the terminal shows them: the one after a glyph that is wider than its
square is covered and stays bare. -/
def uncovered : (covered : Bool) → List Cell → List Cell
  | _, [] => []
  | covered, cell :: rest =>
    (if covered then .blank .plain else cell) :: uncovered (1 < columns cell.text) rest

/-- The canvas as the terminal shows it. -/
def shown (canvas : Canvas) : Canvas := canvas.map (uncovered false)

/-- The text of each row. -/
def texts (canvas : Canvas) : List String :=
  canvas.map fun cells => String.ofList (cells.flatMap Cell.text)

end Canvas

end TreeOutline
