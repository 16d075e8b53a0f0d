import TreeOutline.Proofs.Text.Lines
import TreeOutline.Proofs.Workbench.Application

namespace TreeOutline

/-!
# The cursor in the rule

The rule's cursor, the rule's text and the active kind are kept in three places and changed by
different steps; in a run of the application they always fit together.

* `RulePane.Valid.move`, `RulePane.valid_clampTo` — the cursor stays inside the text it moves in,
  and comes inside a text that it is clamped to.
* `App.CursorChange`, `App.cursorChange_act` — all that an action does to cursor, rule and kind: a
  key, the clock, a recompute, a new rule and a new source.
* `App.CursorInRule`, `App.run_cursorInRule` — the first invariant: the cursor stands in the rule,
  in every run.
* `App.InStep` — the second one: also, the active kind is the last one named before the cursor.
* `App.run_cursor_in_step` — this holds in every run from a model without an active kind.
-/

/-! ### Inside a text -/

namespace RulePane

variable {pane : RulePane} {text : List Char}

/-- Every text has a place for the cursor at its start. -/
theorem valid_initial (text : List Char) : initial.Valid text :=
  ⟨splitLines_length_pos text, Nat.zero_le _⟩

/-- At the start nothing stands before the cursor. -/
theorem offset_initial (text : List Char) : initial.offset text = 0 := rfl

/-- On a line of the text, the column is brought inside it. -/
theorem valid_clampColumn (hrow : pane.row < (splitLines text).length) :
    (pane.clampColumn (splitLines text)).Valid text :=
  ⟨hrow, Nat.min_le_right _ _⟩

/-- A cursor from another text is brought inside this one. -/
theorem valid_clampTo (pane : RulePane) (text : List Char) : (pane.clampTo text).Valid text := by
  refine valid_clampColumn ?_
  have hpos := splitLines_length_pos text
  show min pane.row ((splitLines text).length - 1) < (splitLines text).length
  omega

/-- **No key takes the cursor out of the text**, over line ends or not. -/
theorem Valid.move (h : pane.Valid text) (code : KeyCode) : (pane.move code text).Valid text := by
  obtain ⟨hrow, hcolumn⟩ := h
  -- one key after the other: a row stays in the text, a column in its line
  cases code with
  | up =>
    refine valid_clampColumn ?_
    show pane.row - 1 < (splitLines text).length
    omega
  | down =>
    dsimp only [RulePane.move]
    by_cases hnext : pane.row + 1 < (splitLines text).length
    · rw [if_pos hnext]
      exact valid_clampColumn hnext
    · rw [if_neg hnext]
      exact ⟨hrow, hcolumn⟩
  | left =>
    dsimp only [RulePane.move]
    by_cases hinside : 0 < pane.column
    · rw [if_pos hinside]
      exact ⟨hrow, (Nat.sub_le _ _).trans hcolumn⟩
    · rw [if_neg hinside]
      by_cases habove : 0 < pane.row
      · rw [if_pos habove]
        exact ⟨(Nat.sub_le _ _).trans_lt hrow, Nat.le_refl _⟩
      · rw [if_neg habove]
        exact ⟨hrow, hcolumn⟩
  | right =>
    dsimp only [RulePane.move]
    by_cases hinside : pane.column < lineLength (splitLines text) pane.row
    · rw [if_pos hinside]
      exact ⟨hrow, hinside⟩
    · rw [if_neg hinside]
      by_cases hnext : pane.row + 1 < (splitLines text).length
      · rw [if_pos hnext]
        exact ⟨hnext, Nat.zero_le _⟩
      · rw [if_neg hnext]
        exact ⟨hrow, hcolumn⟩
  | home => exact ⟨hrow, Nat.zero_le _⟩
  | endOfLine => exact ⟨hrow, Nat.le_refl _⟩
  | enter | tab | escape | backspace | function n | char c => exact ⟨hrow, hcolumn⟩

end RulePane

/-- Before the start of a rule no kind is named. -/
theorem activeKindAt_zero (rule : String) : activeKindAt rule 0 = none := by
  have hnone : handlerText? [] = none := rfl
  unfold activeKindAt
  rw [List.take_zero, hnone]
  rfl

/-! ### What an action does to the cursor -/

namespace App

/-- The cursor stands in the rule. -/
def CursorInRule (app : App) : Prop := app.rulePane.Valid app.model.session.rule.toList

/-- What an action does to the cursor, the rule and the active kind. -/
inductive CursorChange (app : App) : App → Prop where
  /-- Nothing. -/
  | kept {other : App} (hpane : other.rulePane = app.rulePane)
    (hrule : other.model.session.rule = app.model.session.rule)
    (hkind : other.model.activeKind = app.model.activeKind) : CursorChange app other
  /-- The kind is derived anew from a cursor; it stands in the rule if the one before did. -/
  | derived {pane : RulePane} {m : Model}
    (hvalid : app.CursorInRule → pane.Valid m.session.rule.toList) :
    CursorChange app
      { app with
        model := (m.setRuleCursor (pane.offset m.session.rule.toList)).2
        rulePane := pane }

section

variable (app : App) (tools : Tools) (now : Time)

/-- A recompute keeps cursor, rule and kind. -/
theorem cursorChange_recompute : app.CursorChange (app.recompute tools now) :=
  .kept rfl (app.model.session.recompute_texts tools now).2 rfl

/-- So does a tick. -/
theorem cursorChange_tick : app.CursorChange (app.tick tools now).2 := by
  refine .kept rfl ?_ (app.model.tick_activeKind tools now)
  show (app.model.tick tools now).2.session.rule = _
  rw [Model.tick_session]
  exact (app.model.session.tick_texts tools now).2

/-- A new rule may be shorter than the old one: the cursor is clamped to it, and the kind is derived
from the new text. -/
theorem cursorChange_ruleChanged (rule : String) :
    app.CursorChange (app.ruleChanged rule now) :=
  .derived (m := app.model.editRule rule now)
    fun _ => app.rulePane.valid_clampTo rule.toList

/-- A key for the pane in focus.  The tree pane does not move the cursor; the rule pane tells of
every move. -/
theorem cursorChange_handlePaneKey (key : KeyPress) :
    app.CursorChange (app.handlePaneKey key).2 := by
  cases hfocus : app.focus with
  | tree =>
    obtain ⟨hsession, hkind, hpane⟩ := handlePaneKey_keeps_of_tree hfocus key
    exact .kept hpane (congrArg Session.rule hsession) hkind
  | rule =>
    rcases handlePaneKey_of_rule hfocus key with heq | ⟨pane, -, rfl, heq⟩
    · rw [heq]
      exact .kept rfl rfl rfl
    · rw [heq]
      -- a moved cursor stays in the rule, and the active kind is computed from it
      exact .derived fun hcursor => hcursor.move key.code

/-- A global key keeps cursor, rule and kind; any other one goes to the pane in focus. -/
theorem cursorChange_handleKey (key : KeyPress) :
    app.CursorChange (app.handleKey tools now key).2 := by
  cases hglobal : key.isGlobal with
  | false =>
    rw [app.handleKey_of_not_isGlobal hglobal]
    exact app.cursorChange_handlePaneKey key
  | true =>
    -- no global key moves the cursor or writes to the rule
    rcases app.handleKey_of_isGlobal hglobal tools now with heq | heq | heq
    · rw [heq]
      exact .kept rfl rfl rfl
    · rw [heq]
      exact .kept rfl rfl rfl
    · rw [heq]
      exact app.cursorChange_recompute tools now

/-- **Every action** does one of the two. -/
theorem cursorChange_act (action : Action) : app.CursorChange (app.act action) := by
  cases action with
  | key tools now press => exact app.cursorChange_handleKey tools now press
  | tick tools now => exact app.cursorChange_tick tools now
  | recompute tools now => exact app.cursorChange_recompute tools now
  | ruleChanged rule now => exact app.cursorChange_ruleChanged now rule
  | editSource source now => exact .kept rfl rfl rfl

end

/-! ### The invariants -/

/-- The cursor stands in the rule, and the active kind is the last one named before it. -/
structure InStep (app : App) : Prop where
  cursor : app.CursorInRule
  kind : app.model.activeKind =
    activeKindAt app.model.session.rule (app.rulePane.offset app.model.session.rule.toList)

/-- A new application has its cursor in the rule. -/
theorem cursorInRule_ofModel (m : Model) (title : String) : (ofModel m title).CursorInRule :=
  RulePane.valid_initial _

/-- A model without an active kind fits a cursor at the start. -/
theorem inStep_ofModel {m : Model} (fresh : m.activeKind = none) (title : String) :
    (ofModel m title).InStep where
  cursor := cursorInRule_ofModel m title
  kind := by
    show m.activeKind = activeKindAt m.session.rule (RulePane.initial.offset _)
    rw [fresh, RulePane.offset_initial, activeKindAt_zero]

namespace CursorChange

variable {app other : App}

/-- **Step.** An action leaves the cursor in the rule. -/
theorem cursorInRule (h : app.CursorChange other) (hcursor : app.CursorInRule) :
    other.CursorInRule := by
  cases h with
  | kept hpane hrule hkind =>
    unfold CursorInRule
    rw [hpane, hrule]
    exact hcursor
  -- the new active kind is put into a model with the same rule
  | derived hvalid =>
    show RulePane.Valid _ (Model.setRuleCursor _ _).2.session.rule.toList
    rw [Model.setRuleCursor, Model.setActiveKind_session]
    exact hvalid hcursor

/-- **Step.** An action keeps cursor, rule and kind in step: a kind that is derived anew is in step
with any cursor that stands in the rule. -/
theorem inStep (h : app.CursorChange other) (hstep : app.InStep) : other.InStep where
  cursor := h.cursorInRule hstep.cursor
  kind := by
    cases h with
    | kept hpane hrule hkind =>
      rw [hpane, hrule, hkind]
      exact hstep.kind
    -- the kind has just been set to the one at this cursor
    | @derived pane m hvalid =>
      show (m.setRuleCursor _).2.activeKind =
        activeKindAt (m.setRuleCursor _).2.session.rule
          (pane.offset (m.setRuleCursor _).2.session.rule.toList)
      rw [Model.setRuleCursor, Model.setActiveKind_session, Model.setActiveKind_activeKind]

end CursorChange

/-- **Run.** In every run the cursor stands in the rule, whatever kind is active at its start. -/
theorem run_cursorInRule (m : Model) (title : String) (actions : List Action) :
    ((ofModel m title).run actions).CursorInRule :=
  run_induction (fun app action => (app.cursorChange_act action).cursorInRule)
    (cursorInRule_ofModel m title) actions

/-- **Cursor, rule and kind stay in step.** From a model without an active kind, whatever keys are
pressed with whichever pane in focus, whatever the clock says and the tools answer, and whatever
texts the rule and the source are changed to: the cursor stands on a line of the current rule, no
further than its end, and the active kind is the last one named before it. -/
theorem run_cursor_in_step {m : Model} (fresh : m.activeKind = none) (title : String)
    (actions : List Action) :
    let app := (ofModel m title).run actions
    let rule := app.model.session.rule
    app.rulePane.row < (splitLines rule.toList).length ∧
      app.rulePane.column ≤ lineLength (splitLines rule.toList) app.rulePane.row ∧
      app.model.activeKind = activeKindAt rule (app.rulePane.offset rule.toList) := by
  intro app rule
  have hstep : app.InStep :=
    run_induction (fun app action => (app.cursorChange_act action).inStep)
      (inStep_ofModel fresh title) actions
  exact ⟨hstep.cursor.1, hstep.cursor.2, hstep.kind⟩

/-! ### A rule with two handlers -/

/-- A rule whose first line names one kind and whose second line another. -/
def twoHandlers : String :=
  "visitor: \x7b Program(path) \x7b\x7d,\n  Identifier(path) \x7b\x7d \x7d"

/-- No tree and the rule with two handlers. -/
def twoHandlersModel : Model := .ofSession (.start "" twoHandlers .standard) .standard

/-- A key without modifiers, with tools that give nothing. -/
def plainKey (code : KeyCode) : Action :=
  .key ⟨fun _ => .error (.output ""), none⟩ 0 ⟨code, false, false, false⟩

/-- Keys that take the cursor to the end of the rule. -/
def keysToEnd : List Action := [.tab, .down, .endOfLine].map plainKey

/-- The same keys, and a rule without the second handler. -/
def secondLost : List Action := keysToEnd ++ [.ruleChanged "visitor: \x7b Program" 0]

/-- With the cursor in the second line the kind of that line is active; once the rule loses the
line, the cursor stands in the first one and its kind is active. -/
theorem run_cursor_in_step_handlers :
    twoHandlersModel.activeKind = none ∧
      ((ofModel twoHandlersModel "Ast").run keysToEnd).model.activeKind = some "Identifier" ∧
      ((ofModel twoHandlersModel "Ast").run secondLost).model.activeKind =
        some "Program" := by
  have fresh : twoHandlersModel.activeKind = none := rfl
  refine ⟨fresh, ?_, ?_⟩
  · rw [(run_cursor_in_step fresh "Ast" keysToEnd).2.2]
    cbv
  · rw [(run_cursor_in_step fresh "Ast" secondLost).2.2]
    cbv

end App

end TreeOutline
