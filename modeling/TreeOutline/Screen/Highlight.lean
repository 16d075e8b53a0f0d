import TreeOutline.Screen.Style
import TreeOutline.Tree.Span

namespace TreeOutline

/-!
# Marked source text

* `markedLines` — the lines of a text as runs of characters that lie in a span or in none.
-/

/-- A run of characters that are all marked, or all not. -/
structure MarkedRun where
  text : List Char
  marked : Bool
deriving DecidableEq, Repr

/-- Puts a character in front of the runs of a line. -/
def consMarked (c : Char) (marked : Bool) : List MarkedRun → List MarkedRun
  | [] => [⟨[c], marked⟩]
  | run :: rest =>
    if run.marked = marked then ⟨c :: run.text, marked⟩ :: rest else ⟨[c], marked⟩ :: run :: rest

/-- The lines of a text that starts at the UTF-16 offset `offset`. -/
def markedLinesFrom (spans : List Span) : (offset : Nat) → List Char → List (List MarkedRun)
  | _, [] => [[]]
  | offset, c :: rest =>
    let lines := markedLinesFrom spans (offset + unitWidth c) rest
    if c = '\n' then [] :: lines
    else
      let marked := spans.any (·.contains offset)
      match lines with
      | [] => [[⟨[c], marked⟩]]
      | line :: lines => consMarked c marked line :: lines

/-- The lines of a text as runs that are marked where a span covers them. -/
def markedLines (text : List Char) (spans : List Span) : List (List MarkedRun) :=
  markedLinesFrom spans 0 text

/-- Marked characters stand out. -/
def MarkedRun.styled (run : MarkedRun) : Run :=
  ⟨run.text, if run.marked then .on .black .yellow else .plain⟩

end TreeOutline
