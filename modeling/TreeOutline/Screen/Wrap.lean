import TreeOutline.Screen.Canvas
import TreeOutline.Text.Blank

namespace TreeOutline

/-!
# Wrapping at blanks

A line takes words while they fit; the blanks at a break are dropped; a word that is longer than
the width starts a line of its own and is broken at the width; blanks at the start of the text
are kept.

* `Wrapping` — the lines so far, the line in progress, and the blanks and the word that may
  follow on it.
* `Wrapping.step` — one more glyph; `Wrapping.finish` — the end of the text.
* `wrapped` — the lines of a text.
-/

/-- Whether a line may break at the glyph: at blanks other than the one that holds words
together, and at the space without width. -/
def Glyph.isGap (glyph : Glyph) : Bool :=
  glyph.text == ['\u200b'] || (glyph.text.all isBlankChar && glyph.text != ['\u00a0'])

/-- The state between two glyphs. -/
structure Wrapping where
  lines : List (List Glyph)
  /-- What is settled on the line in progress. -/
  line : List Glyph
  /-- The blanks after it. -/
  gap : List Glyph
  /-- The word after these. -/
  word : List Glyph
  /-- Whether the last glyph belonged to a word. -/
  inWord : Bool

namespace Wrapping

/-- Nothing read yet. -/
def start : Wrapping := ⟨[], [], [], [], false⟩

/-- The blanks that are left when those that fit into `room` are dropped. -/
def dropFitting : (room : Nat) → List Glyph → List Glyph
  | _, [] => []
  | room, glyph :: rest =>
    if glyph.width ≤ room then dropFitting (room - glyph.width) rest else glyph :: rest

/-- Puts the blanks and the word on the line in progress. -/
def settle (s : Wrapping) : Wrapping :=
  { s with line := s.line ++ s.gap ++ s.word, gap := [], word := [] }

/-- Adds the glyph to the word or to the blanks. -/
def push (s : Wrapping) (glyph : Glyph) : Wrapping :=
  if glyph.isGap then { s with gap := s.gap ++ [glyph], inWord := false }
  else { s with word := s.word ++ [glyph], inWord := true }

/-- One more glyph in lines of `width`; a glyph wider than that is passed over. -/
def step (width : Nat) (s : Wrapping) (glyph : Glyph) : Wrapping :=
  if width < glyph.width then s
  else
    let ends := (s.inWord && glyph.isGap) ||
      (s.line.isEmpty && width < totalWidth s.word + totalWidth s.gap + glyph.width)
    let s := if ends then s.settle else s
    let used := totalWidth s.line
    let full := width ≤ used ||
      (0 < glyph.width && width ≤ used + totalWidth s.gap + totalWidth s.word)
    if full then
      let gap := dropFitting (width - used) s.gap
      let s := { s with lines := s.lines ++ [s.line], line := [], gap }
      if glyph.isGap && gap.isEmpty then s else s.push glyph
    else s.push glyph

/-- The lines when the text has ended; there is at least one. -/
def finish (s : Wrapping) : List (List Glyph) :=
  let lines := if s.line.isEmpty && s.word.isEmpty && !s.gap.isEmpty then s.lines ++ [[]]
    else s.lines
  let last := s.line ++ s.gap ++ s.word
  let lines := if last.isEmpty then lines else lines ++ [last]
  if lines.isEmpty then [[]] else lines

end Wrapping

/-- The lines of a text, none of them wider than `width`. -/
def wrapped (width : Nat) (text : List Glyph) : List (List Glyph) :=
  (text.foldl (Wrapping.step width) Wrapping.start).finish

end TreeOutline
