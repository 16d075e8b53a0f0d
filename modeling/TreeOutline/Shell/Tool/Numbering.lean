import TreeOutline.Shell.Pattern

namespace TreeOutline

/-!
# Numbers in front of lines

* `Shell.NumberedLines` — which lines of a section get a number.
* `Shell.Numbering` — how lines are numbered; `Numbering.lines` numbers them, and keeps them behind
  their numbers (`Numbering.suffix_of_mem_lines`).
* `Shell.nl` — files with numbers in front of their lines.
-/

namespace Shell

/-- Which lines of a section get a number. -/
inductive NumberedLines where
  | all
  | filled
  | none
  | matching (pattern : Pattern)

/-- How lines are numbered: which ones in the sections of a page, from what number on and in what
steps, in what columns, and what separates the numbers from the lines. -/
structure Numbering where
  header : NumberedLines
  body : NumberedLines
  footer : NumberedLines
  first : Int
  step : Int
  /-- How many empty lines count as one. -/
  joined : Nat
  width : Nat
  /-- Whether numbers stand at the left end of their column, and whether it is filled with zeros. -/
  atLeft : Bool
  zeros : Bool
  separator : List Char
  /-- The mark of which lines consist that begin a section. -/
  mark : List Char
  /-- Whether numbers go on in the next section. -/
  goesOn : Bool

namespace Numbering

/-- A number in its column. -/
def column (style : Numbering) (n : Int) : List Char :=
  let digits := (toString n.natAbs).toList
  let sign := if n < 0 then ['-'] else []
  let room := style.width - digits.length - sign.length
  if style.atLeft then sign ++ digits ++ List.replicate room ' '
  else if style.zeros then sign ++ List.replicate room '0' ++ digits
  else List.replicate room ' ' ++ sign ++ digits

/-- The section that a line begins, if it is the mark of one. -/
def section? (style : Numbering) (line : List Char) : Option NumberedLines :=
  let mark := style.mark
  if mark.isEmpty then none
  else if line = mark ++ mark ++ mark then some style.header
  else if line = mark ++ mark then some style.body
  else if line = mark then some style.footer
  else none

/-- Whether a line gets a number, `blank` lines before it being empty, and how many of these count
for the next one. -/
def numbers (style : Numbering) (kind : NumberedLines) (blank : Nat) (line : List Char) :
    Bool × Nat :=
  match kind with
  | .all =>
    if style.joined ≤ 1 then (true, blank)
    else if ¬ line.isEmpty ∨ blank + 1 = style.joined then (true, 0)
    else (false, blank + 1)
  | .filled => (!line.isEmpty, blank)
  | .none => (false, blank)
  | .matching pattern => ((pattern.findIn? (caseFold false) line).isSome, blank)

/-- Numbers lines, `blank` of them before the first one being empty. -/
def lines (style : Numbering) : (kind : NumberedLines) → (n : Int) → (blank : Nat) →
    List (List Char) → List (List Char)
  | _, _, _, [] => []
  | kind, n, blank, line :: rest =>
    match style.section? line with
    | some kind => [] :: lines style kind (if style.goesOn then n else style.first) blank rest
    | none =>
      let (numbered, blank) := style.numbers kind blank line
      if numbered then
        (style.column n ++ style.separator ++ line) :: lines style kind (n + style.step) blank rest
      else
        (List.replicate (style.width + style.separator.length) ' ' ++ line) ::
          lines style kind n blank rest

/-- **Numbering keeps the lines**: each of them is the end of what is shown for it, or it is the
mark of a section, for which an empty line is shown. -/
theorem suffix_of_mem_lines (style : Numbering) (kind : NumberedLines) (n : Int) (blank : Nat)
    (text : List (List Char)) :
    (style.lines kind n blank text).length = text.length ∧
      ∀ line shown, (line, shown) ∈ text.zip (style.lines kind n blank text) →
        line <:+ shown ∨ (style.section? line).isSome ∧ shown = [] := by
  induction text generalizing kind n blank with
  | nil => simp [lines]
  | cons line text ih =>
    have hcons (front : List Char) (kind : NumberedLines) (n : Int) (blank : Nat)
        (hfront : line <:+ front ∨ (style.section? line).isSome ∧ front = []) :
        (front :: style.lines kind n blank text).length = (line :: text).length ∧
          ∀ other shown,
            (other, shown) ∈ (line :: text).zip (front :: style.lines kind n blank text) →
            other <:+ shown ∨ (style.section? other).isSome ∧ shown = [] := by
      refine ⟨by rw [List.length_cons, (ih kind n blank).1, List.length_cons], ?_⟩
      intro other shown hmem
      rw [List.zip_cons_cons] at hmem
      rcases List.mem_cons.1 hmem with heq | hmem
      · cases heq
        exact hfront
      · exact (ih kind n blank).2 other shown hmem
    rw [lines]
    split
    next next hsection => exact hcons _ _ _ _ (.inr ⟨by rw [hsection]; rfl, rfl⟩)
    next =>
      dsimp only
      split <;> exact hcons _ _ _ _ (.inl (List.suffix_append _ _))

end Numbering

/-- Reads which lines get a number. -/
def readNumbered (text : String) : Except (Option PatternFault) NumberedLines :=
  match text.toList with
  | 'a' :: _ => .ok .all
  | 't' :: _ => .ok .filled
  | 'n' :: _ => .ok .none
  | 'p' :: pattern =>
    match Pattern.read .basic pattern with
    | .ok pattern => .ok (.matching pattern)
    | .error fault => .error (some fault)
  | _ => .error none

/-- Numbers lines: `-b`, `-h` and `-f` tell which ones in a body, a header and a footer, `-v` and
`-i` from where on and in what steps, `-w` and `-n` in what columns, `-s` with what behind them,
`-l` counts so many empty lines as one, `-d` names the mark of sections and `-p` goes on in them. -/
def nl (task : Task) : Report :=
  let table : OptionTable := ⟨"p", "bhfwsnvild", [("body-numbering", 'b'),
    ("header-numbering", 'h'), ("footer-numbering", 'f'), ("number-width", 'w'),
    ("number-separator", 's'), ("number-format", 'n'), ("starting-line-number", 'v'),
    ("line-increment", 'i'), ("join-blank-lines", 'l'), ("section-delimiter", 'd'),
    ("no-renumber", 'p')]⟩
  task.withOptions "nl" 1 table fun options paths =>
    let misused (what value : String) : Report :=
      .misused task "nl" 1 s!"invalid {what}: '{value}'"
    let kind (letter : Char) (name usual : String) : Except Report NumberedLines :=
      let value := (optionValue? options letter).getD usual
      match readNumbered value with
      | .ok kind => .ok kind
      | .error none => .error (misused s!"{name} numbering style" value)
      | .error (some fault) =>
        let text := if value = "p[" then "Invalid regular expression" else fault.message
        .error (.complaining task 1 s!"nl: {text}")
    let number (letter : Char) (what : String) (usual : Int) (least : Option Int) :
        Except Report Int :=
      match optionValue? options letter with
      | none => .ok usual
      | some value =>
        match decimal? value with
        | none => .error (.complaining task 1 s!"nl: invalid {what}: '{value}'")
        | some n =>
          if least.any (n < ·) then
            .error (.complaining task 1
              s!"nl: invalid {what}: '{value}': Numerical result out of range")
          else .ok n
    let style : Except Report Numbering := do
      let body ← kind 'b' "body" "t"
      let header ← kind 'h' "header" "n"
      let footer ← kind 'f' "footer" "n"
      let first ← number 'v' "starting line number" 1 none
      let step ← number 'i' "line number increment" 1 none
      let joined ← number 'l' "line number of blank lines" 1 (some 1)
      let width ← number 'w' "line number field width" 6 (some 1)
      let format := (optionValue? options 'n').getD "rn"
      if format ∉ ["ln", "rn", "rz"] then .error (misused "line numbering format" format)
      let mark := match ((optionValue? options 'd').getD "\\:").toList with
        | [c] => [c, ':']
        | mark => mark
      .ok ⟨header, body, footer, first, step, joined.toNat, width.toNat, format = "ln",
        format = "rz", ((optionValue? options 's').getD "\t").toList, mark, hasOption options 'p'⟩
    match style with
    | .error report => report
    | .ok style =>
      task.throughAll paths (Task.missing "nl") 1 fun text =>
        joinLines (style.lines style.body style.first 0 (plainLines text))

end Shell

end TreeOutline
