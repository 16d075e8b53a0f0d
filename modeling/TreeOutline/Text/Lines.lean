namespace TreeOutline

/-!
# Lines

* `splitLines` — the parts of a text between its line ends; a text without one is one line.
* `joinLines` — the text that has the given lines.
* `linesLength` — the length of lines that are followed by others.
* `joinLines_splitLines` — splitting loses nothing.
-/

/-- The parts of a text between its line ends. -/
def splitLines : List Char → List (List Char)
  | [] => [[]]
  | c :: rest =>
    if c = '\n' then [] :: splitLines rest
    else
      match splitLines rest with
      | [] => [[c]]
      | line :: lines => (c :: line) :: lines

/-- The length of some lines, each with the line end behind it. -/
def linesLength : List (List Char) → Nat
  | [] => 0
  | line :: lines => line.length + 1 + linesLength lines

/-- The lines with a line end between them. -/
def joinLines : List (List Char) → List Char
  | [] => []
  | [line] => line
  | line :: lines => line ++ '\n' :: joinLines lines

/-- A text has at least one line. -/
theorem splitLines_ne_nil (text : List Char) : splitLines text ≠ [] := by
  cases text with
  | nil => simp [splitLines]
  | cons c rest => simp only [splitLines]; split <;> (try split) <;> simp

/-- Splitting loses nothing. -/
theorem joinLines_splitLines (text : List Char) : joinLines (splitLines text) = text := by
  induction text with
  | nil => rfl
  | cons c rest ih =>
    simp only [splitLines]
    cases h : splitLines rest with
    | nil => exact absurd h (splitLines_ne_nil rest)
    | cons line lines =>
      rw [h] at ih
      split
      next hc => subst hc; simp [joinLines, ih]
      next => cases lines <;> simp_all [joinLines]

/-- The part of a text before its first line end; a carriage return right before that end is
left out. -/
def firstLine (text : List Char) : List Char :=
  let line := text.takeWhile (· ≠ '\n')
  if line.length < text.length ∧ line.getLast? = some '\r' then line.dropLast else line

end TreeOutline
