import TreeOutline.Screen.Highlight
import TreeOutline.Screen.Wrap
import TreeOutline.Workbench.App

namespace TreeOutline

/-!
# Drawing the application

A title bar, the tree on the left, the rule, the source and the output on the right, and a status
line.

* `Row.styledLine`, `TreePane.lines` — the rows in view, the selected one among them.
* `RulePane.lines` — the lines of the rule in view, the cursor's among them.
* `Session.outputCanvas` — the error, the output or what is missing.
* `App.draw` — the whole screen.
-/

/-- The first line in view when `height` lines are shown and the line `index` has to be. -/
def scrollTo (index height : Nat) : Nat := index - (height - 1)

/-- The lines of a text as it is printed: a line end closes a line, with or without a carriage
return before it. -/
def printedLines (text : List Char) : List (List Char) :=
  let lines := splitLines text
  let closed := lines.dropLast.map fun line =>
    if line.getLast? = some '\r' then line.dropLast else line
  match lines.getLast? with
  | some [] => if closed.isEmpty then [[]] else closed
  | some last => closed ++ [last]
  | none => closed

/-- One line of text without a style. -/
def plainLine (text : List Char) : List Glyph := glyphs [.plain text]

/-! ### The tree -/

/-- How the label of a row looks. -/
def Row.labelStyle (row : Row) (selected : Bool) : Style :=
  if selected then (Style.on .white .blue).inBold
  else if row.active then (Style.letters .yellow).inBold
  else if row.toggle = .closed then (Style.letters .gray).dimmed
  else .plain

/-- The first line of a row's snippet, as far as there is room for it in a line of `width`. -/
def Row.snippetRuns (row : Row) (width : Nat) : StyledLine :=
  let room := width - (row.indentation.length + row.text.length + 2)
  let shown := (firstLine (row.snippet.getD "").toList).take room
  if shown.isEmpty then [] else [.plain [' ', ' '], ⟨shown, .letters .darkGray⟩]

/-- A row: its indentation, its label, and its snippet after two blanks. -/
def Row.styledLine (row : Row) (selected : Bool) (width : Nat) : StyledLine :=
  [.plain row.indentation.toList, ⟨row.text.toList, row.labelStyle selected⟩] ++
    row.snippetRuns width

/-- The rows in view. -/
def TreePane.lines (pane : TreePane) (model : Model) (width height : Nat) : List StyledLine :=
  let selected := pane.selectedIndex model
  let scroll := scrollTo (selected.getD 0) height
  ((model.rows.zipIdx.drop scroll).take height).map fun (row, index) =>
    row.styledLine (selected == some index) width

/-- The tree pane's canvas. -/
def TreePane.canvas (pane : TreePane) (model : Model) (width height : Nat) : Canvas :=
  if model.rows.isEmpty then
    .ofLines width height (Style.letters .gray).dimmed [plainLine "(no tree)".toList]
  else .ofLines width height .plain ((pane.lines model width height).map glyphs)

/-! ### The rule -/

/-- How the cursor looks. -/
def cursorStyle : Style := (Style.on .black .yellow).inBold

/-- A line with the cursor in it; at its end the cursor is a blank. -/
def cursorLine (line : List Char) (column : Nat) : StyledLine :=
  match line.drop column with
  | c :: rest => [.plain (line.take column), ⟨[c], cursorStyle⟩, .plain rest]
  | [] => [.plain (line.take column), ⟨[' '], cursorStyle⟩]

/-- The lines of the rule in view. -/
def RulePane.lines (pane : RulePane) (rule : List Char) (height : Nat) : List StyledLine :=
  let scroll := scrollTo pane.row height
  (((splitLines rule).zipIdx.drop scroll).take height).map fun (line, row) =>
    if row = pane.row then cursorLine line pane.column else [.plain line]

/-! ### Source and output -/

/-- The lines of the source, marked where the active kind's nodes stand. -/
def Model.sourceLines (model : Model) : List StyledLine :=
  (markedLines model.session.source.toList model.highlights).map (·.map MarkedRun.styled)

/-- What stands in the output pane while there is neither an output nor an error. -/
def outputHint (canTransform : Bool) : String :=
  if canTransform then "(no output yet)" else "(no transformer configured)"

/-- The output pane: an error comes before the output, and only it is wrapped. -/
def Session.outputCanvas (session : Session) (canTransform : Bool) (width height : Nat) : Canvas :=
  match session.error, session.output with
  | some error, _ =>
    .ofRows width height (.letters .red)
      ((printedLines error.toList).flatMap fun line => wrapped width (plainLine line))
  | none, some output => .ofLines width height .plain ((printedLines output.toList).map plainLine)
  | none, none =>
    .ofLines width height (Style.letters .gray).dimmed
      [plainLine (outputHint canTransform).toList]

/-! ### The whole screen -/

/-- The narrowest screen that is drawn. -/
def leastWidth : Nat := 60

/-- A share of a length in percent, rounded to the nearest square, a half up. -/
def share (percent length : Nat) : Nat := (percent * length + 50) / 100

/-- The title of a pane. -/
def paneTitle (name : String) (focused : Bool) : List Char :=
  (if focused then name ++ " [FOCUSED]" else name).toList

/-- The status line: the pane in focus, the variant, the active kind, the selected path, and
whether a recompute is due. -/
def App.statusRuns (app : App) : StyledLine :=
  let label (s : String) : Run := ⟨s.toList, .letters .yellow⟩
  let plain (s : String) : Run := .plain s.toList
  let selected := do
    let index ← app.treePane.selectedIndex app.model
    app.model.rows[index]?
  let path := match selected with
    | some row =>
      let key := row.key.path.key
      -- the root has the empty path, which would not be seen
      [plain " | ", label "Path: ", plain (if key.isEmpty then "(root)" else key)]
    | none => []
  let waiting := if app.model.session.isPending then
      [plain " | ", ⟨"recomputing...".toList, .letters .gray⟩]
    else []
  [⟨app.focus.text.toList, (Style.letters .cyan).inBold⟩, plain " | ", label "Fields: ",
    plain app.model.settings.variant.text, plain " | ", label "Active: ",
    plain (app.model.activeKind.getD "-")] ++ path ++ waiting

/-- The fewest rows that the output takes while there are that many. -/
def leastOutput : Nat := 3

/-- The rows of the rule and of the source, of `height`: a third each, and less when the output
would have too few rows; then they share what it leaves. -/
def paneHeights (height : Nat) : Nat × Nat :=
  let rule := share 34 height
  let source := share 67 height - rule
  if height < 3 * leastOutput then
    let left := height - leastOutput
    ((left + 1) / 2, left / 2)
  else (rule, source)

/-- The three panes on the right. -/
def App.rightSide (app : App) (canTransform : Bool) (width height : Nat) : Canvas :=
  let session := app.model.session
  let (ruleHeight, sourceHeight) := paneHeights height
  let rule := Canvas.framed width ruleHeight (paneTitle "Rule" (app.focus = .rule)) fun w h =>
    .ofLines w h .plain ((app.rulePane.lines session.rule.toList h).map glyphs)
  let source := Canvas.framed width sourceHeight (paneTitle "Source" false) fun w h =>
    .ofLines w h .plain (app.model.sourceLines.map glyphs)
  let output := Canvas.framed width (height - ruleHeight - sourceHeight) (paneTitle "Output" false)
    (session.outputCanvas canTransform)
  (rule.above source).above output

/-- The whole screen, or a complaint when it is too narrow. A screen with a single row has no title
and one with two no status line. -/
def App.draw (app : App) (canTransform : Bool) (width height : Nat) : Canvas :=
  if width < leastWidth then
    (Canvas.ofLines width height (Style.letters .red).inBold
      [plainLine s!"Terminal too narrow: {width} < {leastWidth} chars".toList]).shown
  else
    let title := Canvas.ofLines width (min 1 (height - 1)) (Style.on .black .cyan).inBold
      ((printedLines ("astv:: " ++ app.title).toList).map plainLine)
    let status := Canvas.ofLines width (min 1 (height - 2)) (Style.on .white .black)
      [glyphs app.statusRuns]
    let middle := height - title.length - status.length
    let treeWidth := share 45 width
    let tree := Canvas.framed treeWidth middle (paneTitle "Tree" (app.focus = .tree))
      (app.treePane.canvas app.model)
    let right := app.rightSide canTransform (width - treeWidth) middle
    ((title.above (tree.beside right)).above status).shown

end TreeOutline
