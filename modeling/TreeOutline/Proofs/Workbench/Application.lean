import TreeOutline.Proofs.Workbench.Run
import TreeOutline.Workbench.App

namespace TreeOutline

/-!
# Runs of the application

Keys, the clock and new texts, in any order.

* `App.Action`, `App.run` — everything that can happen to an application; each step that may run the
  tools brings its own.
* `KeyPress.isGlobal`, `App.handleKey_of_isGlobal`, `App.handleKey_of_not_isGlobal` — what the keys
  do that no pane sees; all others go to the pane in focus.
* `TreePane.Answer`, `TreePane.answer_handleKey` — all that the tree pane answers to a key.
* `App.handlePaneKey_keeps_of_tree` — with the tree in focus no key changes the session, the active
  kind or the rule's cursor.
* `App.moveCursor`, `App.handlePaneKey_of_rule` — with the rule in focus a key moves the cursor or
  does nothing.
-/

/-! ### What the steps of a model leave alone -/

namespace Model

@[simp] theorem toggle_activeKind (m : Model) (key : LabelKey) :
    (m.toggle key).2.activeKind = m.activeKind := by
  unfold Model.toggle
  rcases m.store.toggle key with ⟨_ | isOpen, store⟩
  · rfl
  · rfl

@[simp] theorem setActiveKind_activeKind (m : Model) (kind : Option String) :
    (m.setActiveKind kind).2.activeKind = kind := by
  unfold Model.setActiveKind
  by_cases hsame : m.activeKind = kind
  · rw [if_pos hsame]
    exact hsame
  · rw [if_neg hsame]
    rfl

@[simp] theorem tick_activeKind (m : Model) (tools : Tools) (now : Time) :
    (m.tick tools now).2.activeKind = m.activeKind := by
  unfold Model.tick
  rcases m.session.tick tools now with ⟨_ | _, session⟩
  · rfl
  · rfl

end Model

/-! ### What the panes ask for -/

namespace TreePane

variable {pane : TreePane} {model : Model}

/-- What the tree pane answers to a key, whichever key it is. -/
inductive Answer (pane : TreePane) (model : Model) : PaneEvent × TreePane → Prop where
  /-- Nothing, and the pane is as it was. -/
  | unchanged : Answer pane model (.none, pane)
  /-- A row is selected. -/
  | selected {row : Row} {i : Nat} (hrow : model.rows[i]? = some row) :
    Answer pane model (.selected row.key, ⟨some row.key, i⟩)
  /-- A row with a toggle is to be opened or closed. -/
  | toggle {row : Row} (hrow : row ∈ model.rows) (htoggle : row.toggle.isToggleable = true) :
    Answer pane model (.toggle row.key, pane)
  /-- The other variant is to be shown. -/
  | toggleVariant : Answer pane model (.toggleVariant, pane)

theorem answer_selectIndex (pane : TreePane) (index : Nat) (model : Model) :
    pane.Answer model (pane.selectIndex index model) := by
  unfold selectIndex
  cases hrow : model.rows[index]? with
  | none => exact .unchanged
  | some row => exact .selected hrow

/-- A toggle is asked for under a condition that only rows with a toggle meet. -/
theorem answer_toggle {row : Row} (hrow : row ∈ model.rows) {p : Prop} [Decidable p]
    (htoggle : p → row.toggle.isToggleable = true) :
    pane.Answer model (if p then .toggle row.key else .none, pane) := by
  by_cases hp : p
  · rw [if_pos hp]
    exact .toggle hrow (htoggle hp)
  · rw [if_neg hp]
    exact .unchanged

/-- **Every key** has one of these answers. -/
theorem answer_handleKey (pane : TreePane) (key : KeyPress) (model : Model) :
    pane.Answer model (pane.handleKey key model) := by
  unfold handleKey
  cases pane.selectedIndex model with
  | none => exact .unchanged
  | some current =>
    dsimp only
    cases hcurrent : model.rows[current]? with
    | none => exact .unchanged
    | some row =>
      have hrow : row ∈ model.rows := List.mem_of_getElem? hcurrent
      dsimp only
      split
      -- up, the other moves, left, right, enter, the variant, any other key
      case h_1 =>
        split
        · exact pane.answer_selectIndex _ model
        · exact .unchanged
      case h_2 | h_3 | h_4 => exact pane.answer_selectIndex _ model
      case h_5 => exact answer_toggle hrow fun hopened => by rw [hopened]; rfl
      case h_6 => exact answer_toggle hrow fun hclosed => by rw [hclosed]; rfl
      case h_7 => exact answer_toggle hrow id
      case h_8 => exact .toggleVariant
      case h_9 => exact .unchanged

/-- The tree pane never asks for a move of the rule's cursor. -/
theorem Answer.ne_cursorMoved {answer : PaneEvent × TreePane} (h : pane.Answer model answer)
    (offset : Nat) : answer.1 ≠ .cursorMoved offset := by
  cases h with
  | unchanged | selected | toggle | toggleVariant => exact fun heq => nomatch heq

end TreePane

namespace App

/-- Unless the rule's cursor moved, what a pane asks for leaves the session, the active kind and the
cursor alone. -/
theorem process_of_ne_cursorMoved (app : App) {event : PaneEvent}
    (h : ∀ offset, event ≠ .cursorMoved offset) :
    (app.process event).2.model.session = app.model.session ∧
      (app.process event).2.model.activeKind = app.model.activeKind ∧
      (app.process event).2.rulePane = app.rulePane := by
  -- only a moved cursor writes to the session, the active kind or the rule pane
  cases event with
  | none => exact ⟨rfl, rfl, rfl⟩
  | selected key => exact ⟨rfl, rfl, rfl⟩
  | toggle key =>
    exact ⟨app.model.toggle_session key, app.model.toggle_activeKind key, rfl⟩
  | toggleVariant => exact ⟨rfl, rfl, rfl⟩
  | cursorMoved offset => exact absurd rfl (h offset)

end App

/-! ### Keys -/

/-- Whether a key acts on the whole application, whichever pane is in focus. -/
def KeyPress.isGlobal (key : KeyPress) : Bool :=
  match key.code with
  | .tab => true
  | .char 'q' => key.isPlain
  | .char 'c' => key.control
  | .char 'r' => key.isPlain
  | .enter => key.shift
  | _ => false

namespace App

/-- A key that acts on the whole application changes the focus, leaves, or runs the tools. -/
theorem handleKey_of_isGlobal (app : App) {key : KeyPress} (h : key.isGlobal = true)
    (tools : Tools) (now : Time) :
    app.handleKey tools now key = (true, app.toggleFocus) ∨
      app.handleKey tools now key = (true, { app with quit := true }) ∨
      app.handleKey tools now key = (true, app.recompute tools now) := by
  unfold KeyPress.isGlobal at h
  unfold handleKey
  -- the focus, two keys that quit, two that run the tools
  split
  next hcode => exact .inl rfl
  next hcode => rw [hcode] at h; exact .inr (.inl (if_pos h))
  next hcode => rw [hcode] at h; exact .inr (.inl (if_pos h))
  next hcode => rw [hcode] at h; exact .inr (.inr (if_pos h))
  next hcode => rw [hcode] at h; exact .inr (.inr (if_pos h))
  next => simp_all

/-- All other keys go to the pane in focus. -/
theorem handleKey_of_not_isGlobal (app : App) {key : KeyPress} (h : key.isGlobal = false)
    (tools : Tools) (now : Time) : app.handleKey tools now key = app.handlePaneKey key := by
  unfold KeyPress.isGlobal at h
  unfold handleKey
  -- none of the tests for a global key succeeds
  split
  next hcode => rw [hcode] at h; exact nomatch h
  next hcode => rw [hcode] at h; exact if_neg (Bool.eq_false_iff.1 h)
  next hcode => rw [hcode] at h; exact if_neg (Bool.eq_false_iff.1 h)
  next hcode => rw [hcode] at h; exact if_neg (Bool.eq_false_iff.1 h)
  next hcode => rw [hcode] at h; exact if_neg (Bool.eq_false_iff.1 h)
  next => rfl

/-- With the tree in focus, its pane has the key, and the application does what it asks for. -/
theorem handlePaneKey_of_tree {app : App} (h : app.focus = .tree) (key : KeyPress) :
    app.handlePaneKey key =
      ({ app with treePane := (app.treePane.handleKey key app.model).2 } : App).process
        (app.treePane.handleKey key app.model).1 := by
  unfold handlePaneKey
  split
  next => rfl
  next hrule => exact absurd (h.symm.trans hrule) (by decide)

/-- With the tree in focus no key changes the session, the active kind or the rule's cursor. -/
theorem handlePaneKey_keeps_of_tree {app : App} (h : app.focus = .tree) (key : KeyPress) :
    (app.handlePaneKey key).2.model.session = app.model.session ∧
      (app.handlePaneKey key).2.model.activeKind = app.model.activeKind ∧
      (app.handlePaneKey key).2.rulePane = app.rulePane := by
  rw [handlePaneKey_of_tree h]
  exact process_of_ne_cursorMoved { app with treePane := (app.treePane.handleKey key app.model).2 }
    (app.treePane.answer_handleKey key app.model).ne_cursorMoved

/-- The application with the rule's cursor at another place. -/
def moveCursor (app : App) (pane : RulePane) : App :=
  { app with
    rulePane := pane
    model := (app.model.setRuleCursor (pane.offset app.model.session.rule.toList)).2 }

/-- With the rule in focus, a key moves the cursor to another place or does nothing. -/
theorem handlePaneKey_of_rule {app : App} (h : app.focus = .rule) (key : KeyPress) :
    app.handlePaneKey key = (false, app) ∨
      ∃ pane ≠ app.rulePane, pane = app.rulePane.move key.code app.model.session.rule.toList ∧
        app.handlePaneKey key = (true, app.moveCursor pane) := by
  unfold handlePaneKey
  split
  next htree => exact absurd (h.symm.trans htree) (by decide)
  next =>
    unfold RulePane.handleKey
    -- a key that leaves the cursor where it is does nothing at all
    by_cases hstill : app.rulePane.move key.code app.model.session.rule.toList = app.rulePane
    · simp only [hstill]
      exact .inl rfl
    · simp only [if_neg hstill]
      exact .inr ⟨_, hstill, rfl, rfl⟩

/-! ### Actions and runs -/

/-- What can happen to an application. -/
inductive Action where
  | key (tools : Tools) (now : Time) (press : KeyPress)
  | tick (tools : Tools) (now : Time)
  | recompute (tools : Tools) (now : Time)
  | ruleChanged (rule : String) (now : Time)
  | editSource (source : String) (now : Time)

/-- The application after one action. -/
def act (app : App) : Action → App
  | .key tools now press => (app.handleKey tools now press).2
  | .tick tools now => (app.tick tools now).2
  | .recompute tools now => app.recompute tools now
  | .ruleChanged rule now => app.ruleChanged rule now
  | .editSource source now => { app with model := app.model.editSource source now }

/-- The application after a list of actions. -/
def run (app : App) (actions : List Action) : App := actions.foldl act app

/-- **Induction over runs.** What every action keeps, a run keeps. -/
theorem run_induction {P : App → Prop} (step : ∀ app action, P app → P (app.act action)) {app : App}
    (h : P app) (actions : List Action) : P (app.run actions) := by
  induction actions generalizing app with
  | nil => exact h
  | cons action rest ih => exact ih (step app action h)

end App

end TreeOutline
