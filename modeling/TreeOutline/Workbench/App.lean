import TreeOutline.Workbench.RulePane

namespace TreeOutline

/-!
# The application

* `App` — the model, the two panes that take keys, and which of them does.
* `App.handleKey` — keys for quitting, the focus and a recompute first, all others to the pane in
  focus.
* `App.ruleChanged` — a new rule text keeps the cursor inside it and the active kind in step.
-/

/-- The pane that takes keys. -/
inductive Focus where
  | tree
  | rule
deriving DecidableEq, Repr, Inhabited

namespace Focus

/-- The other pane. -/
def toggle : Focus → Focus
  | .tree => .rule
  | .rule => .tree

@[simp] theorem toggle_toggle (f : Focus) : f.toggle.toggle = f := by cases f <;> rfl

/-- The name of a pane. -/
def text : Focus → String
  | .tree => "Tree"
  | .rule => "Rule"

end Focus

/-- The state of the application. -/
structure App where
  model : Model
  treePane : TreePane
  rulePane : RulePane
  focus : Focus
  /-- Whether the user asked to leave. -/
  quit : Bool
  /-- What the title bar names. -/
  title : String

namespace App

/-- An application around a model, with the tree in focus. -/
def ofModel (model : Model) (title : String) : App :=
  ⟨model, .initial, .initial, .tree, false, title⟩

/-- Gives the keys to the other pane. -/
def toggleFocus (app : App) : App := { app with focus := app.focus.toggle }

/-- Runs the tools now. -/
def recompute (app : App) (tools : Tools) (now : Time) : App :=
  { app with model := app.model.recompute tools now }

/-- Advances the timers; says whether the screen needs to be drawn again. -/
def tick (app : App) (tools : Tools) (now : Time) : Bool × App :=
  let (changed, model) := app.model.tick tools now
  (changed, { app with model })

/-- The rule file has a new text. -/
def ruleChanged (app : App) (rule : String) (now : Time) : App :=
  let rulePane := app.rulePane.clampTo rule.toList
  let (_, model) := (app.model.editRule rule now).setRuleCursor (rulePane.offset rule.toList)
  { app with model, rulePane }

/-- Carries out what a pane asks for; says whether anything changed. -/
def process (app : App) : PaneEvent → Bool × App
  | .none => (false, app)
  | .selected key => (true, { app with treePane := app.treePane.select key app.model })
  | .toggle key =>
    let (changed, model) := app.model.toggle key
    (changed, { app with model, treePane := app.treePane.select key model })
  | .toggleVariant => (true, { app with model := app.model.toggleVariant })
  | .cursorMoved offset =>
    let (_, model) := app.model.setRuleCursor offset
    (true, { app with model })

/-- A key for the pane in focus. -/
def handlePaneKey (app : App) (key : KeyPress) : Bool × App :=
  match app.focus with
  | .tree =>
    let (event, treePane) := app.treePane.handleKey key app.model
    { app with treePane }.process event
  | .rule =>
    let (event, rulePane) := app.rulePane.handleKey key app.model.session.rule.toList
    { app with rulePane }.process event

/-- A key: `q` and Ctrl+c leave, Tab changes the focus, `r` and Shift+Enter run the tools.  Says
whether anything changed. -/
def handleKey (app : App) (tools : Tools) (now : Time) (key : KeyPress) : Bool × App :=
  match key.code with
  | .tab => (true, app.toggleFocus)
  | .char 'q' => if key.isPlain then (true, { app with quit := true }) else app.handlePaneKey key
  | .char 'c' => if key.control then (true, { app with quit := true }) else app.handlePaneKey key
  | .char 'r' => if key.isPlain then (true, app.recompute tools now) else app.handlePaneKey key
  | .enter => if key.shift then (true, app.recompute tools now) else app.handlePaneKey key
  | _ => app.handlePaneKey key

end App

end TreeOutline
