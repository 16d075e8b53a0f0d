import TreeOutline.Proofs.Workbench.ActiveMarks
import TreeOutline.Proofs.Workbench.Reachable
import TreeOutline.Proofs.Workbench.Timers

namespace TreeOutline

/-!
# What a key leaves alone

A key that asks for no new drawing changes nothing at all, and a key for one pane nothing that
belongs to the other.

* `App.Grounded` — the invariant: the rows are not stale, and the timers are those of a history;
  `Grounded.act`, `App.run_grounded` — it holds in all runs.
* `Grounded.process_answer` — what the tree pane answers is carried out, or nothing changes.
* `App.unchanged_of_no_redraw` — **without a new drawing the application is as it was.**
* `Grounded.sameTree_moveCursor` — a move of the rule's cursor changes the marks of the rows at
  most.
* `App.keys_stay_in_pane` — **a key acts on the pane in focus only.**
-/

/-! ### What a tick does to a model -/

namespace Model

/-- A tick of the model answers as that of its session. -/
theorem tick_fst (m : Model) (tools : Tools) (now : Time) :
    (m.tick tools now).1 = (m.session.tick tools now).1 := by
  unfold Model.tick
  rcases m.session.tick tools now with ⟨_ | _, session⟩
  · rfl
  · rfl

/-- A tick without a change passes the session on and draws nothing. -/
theorem tick_of_fst_eq_false {m : Model} {tools : Tools} {now : Time}
    (h : (m.tick tools now).1 = false) :
    (m.tick tools now).2 = { m with session := (m.session.tick tools now).2 } := by
  rw [tick_fst] at h
  unfold Model.tick
  rcases htick : m.session.tick tools now with ⟨changed, session⟩
  rw [htick] at h
  cases h
  rfl

/-- Every action leaves the session where some history says, if it was there before. -/
theorem exists_history_act {m : Model} (h : ∃ past : History, m.session = past.session)
    (action : Action) : ∃ past : History, (m.act action).session = past.session := by
  obtain ⟨past, hpast⟩ := h
  -- what does not touch the session keeps its history, the rest are events of it
  cases action with
  | toggle key => exact ⟨past, by rw [act, toggle_session, hpast]⟩
  | toggleVariant | refresh => exact ⟨past, hpast⟩
  | setActiveKind kind => exact ⟨past, by rw [act, setActiveKind_session, hpast]⟩
  | setRuleCursor offset => exact ⟨past, by rw [act, setRuleCursor, setActiveKind_session, hpast]⟩
  | editSource source now =>
    exact ⟨past.add (.editSource source now), congrArg (·.editSource source now) hpast⟩
  | editRule rule now =>
    exact ⟨past.add (.editRule rule now), congrArg (·.editRule rule now) hpast⟩
  | tick tools now =>
    refine ⟨past.act tools (.tick now), ?_⟩
    rw [act, tick_session, hpast, past.session_act]
    rfl
  | recompute tools now =>
    refine ⟨past.recompute tools now, ?_⟩
    rw [past.session_recompute, ← hpast]
    rfl

end Model

namespace App

/-! ### The invariant -/

/-- The rows are not stale, and the session is the one of a history, so that its timers run only
for something. -/
structure Grounded (app : App) : Prop where
  fresh : app.model.Fresh
  history : ∃ past : History, app.model.session = past.session

/-- **Step.** Every action keeps an application grounded, whatever the tools answer. -/
theorem Grounded.act {app : App} (h : app.Grounded) (action : Action) :
    (app.act action).Grounded := by
  -- an action on the application is a run of the model
  obtain ⟨actions, hmodel, -⟩ := app.exists_act_model action
  constructor
  · rw [hmodel]
    exact h.fresh.run actions
  · rw [hmodel]
    exact Model.run_induction (P := fun m => ∃ past : History, m.session = past.session)
      (fun _ step hpast => Model.exists_history_act hpast step) h.history actions

/-- **Run.** Every run of the workbench is grounded, from a session after any steps of its own. -/
theorem run_grounded (source rule : String) (timing : Timing)
    (steps : List (Tools × Session.Action)) (settings : DisplayRules) (title : String)
    (actions : List Action) :
    ((ofModel (.ofSession ((Session.start source rule timing).run steps) settings) title).run
      actions).Grounded := by
  refine run_induction (fun _ action h => h.act action) ?_ actions
  exact ⟨Model.fresh_ofSession _ settings, _, Session.run_start source rule timing steps⟩

/-! ### Keys and ticks without a new drawing -/

namespace Grounded

variable {app : App} (h : app.Grounded)
include h

/-- What the tree pane answers is carried out: a toggle that it asks for is that of a row with a
toggle, and never fails. -/
theorem process_answer {answer : PaneEvent × TreePane}
    (hanswer : app.treePane.Answer app.model answer)
    (hsame : (({ app with treePane := answer.2 } : App).process answer.1).1 = false) :
    (({ app with treePane := answer.2 } : App).process answer.1).2 = app := by
  cases hanswer with
  | unchanged => rfl
  | selected hrow => exact nomatch hsame
  | @toggle row hrow htoggle =>
    -- The pane would select the label even if the toggle failed; a row with a toggle never fails.
    have hchanged : (app.model.toggle row.key).1 = true :=
      h.fresh.toggle_fst_iff.2 ⟨row, hrow, rfl, htoggle⟩
    exact nomatch hchanged.symm.trans hsame
  | toggleVariant => exact nomatch hsame

/-- A key that asks for no new drawing changes nothing. -/
theorem handleKey_of_fst_eq_false {tools : Tools} {now : Time} {key : KeyPress}
    (hsame : (app.handleKey tools now key).1 = false) : (app.handleKey tools now key).2 = app := by
  cases hglobal : key.isGlobal with
  | true =>
    rcases app.handleKey_of_isGlobal hglobal tools now with heq | heq | heq
    all_goals
      rw [heq] at hsame
      exact nomatch hsame
  | false =>
    rw [app.handleKey_of_not_isGlobal hglobal] at hsame ⊢
    cases hfocus : app.focus with
    | tree =>
      rw [handlePaneKey_of_tree hfocus] at hsame ⊢
      -- a pane answers with an event, and an event without effect changes nothing
      exact h.process_answer (app.treePane.answer_handleKey key app.model) hsame
    | rule =>
      rcases handlePaneKey_of_rule hfocus key with heq | ⟨pane, -, -, heq⟩
      · rw [heq]
      · rw [heq] at hsame
        exact nomatch hsame

/-- With the rule in focus it asks for one exactly when it changed something. -/
theorem handleKey_fst_eq_false_iff_of_rule (hfocus : app.focus = .rule) {tools : Tools} {now : Time}
    {key : KeyPress} (hlocal : key.isGlobal = false) :
    (app.handleKey tools now key).1 = false ↔ (app.handleKey tools now key).2 = app := by
  refine ⟨h.handleKey_of_fst_eq_false, fun hsame => ?_⟩
  rw [app.handleKey_of_not_isGlobal hlocal] at hsame ⊢
  rcases handlePaneKey_of_rule hfocus key with heq | ⟨pane, hmoved, -, heq⟩
  · rw [heq]
  · rw [heq] at hsame
    exact absurd (congrArg App.rulePane hsame) hmoved

/-- A tick asks for a new drawing exactly when it changed something. -/
theorem tick_fst_eq_false_iff {tools : Tools} {now : Time} :
    (app.tick tools now).1 = false ↔ (app.tick tools now).2 = app := by
  obtain ⟨past, hpast⟩ := h.history
  -- the session of a run has a history, and there a tick that changes nothing says so
  have hsession : (app.model.session.tick tools now).1 = false ↔
      (app.model.session.tick tools now).2 = app.model.session := by
    rw [hpast]
    exact Session.tick_fst_eq_false_iff
  show (app.model.tick tools now).1 = false ↔
    ({ app with model := (app.model.tick tools now).2 } : App) = app
  constructor
  · intro hsame
    rw [Model.tick_of_fst_eq_false hsame]
    rw [Model.tick_fst] at hsame
    rw [hsession.1 hsame]
  · intro hsame
    have hmodel : (app.model.tick tools now).2 = app.model := congrArg App.model hsame
    rw [Model.tick_fst, hsession, ← Model.tick_session, hmodel]

end Grounded

/-- **A key that asks for no new drawing changes nothing.** In every run of the workbench, from a
session after any steps of its own, whatever the tools answer: a key that says that nothing changed,
whichever it is and whichever pane is in focus, leaves the whole application as it was; and a key
for the rule, or a tick, says so exactly when it does. -/
theorem unchanged_of_no_redraw (source rule : String) (timing : Timing)
    (steps : List (Tools × Session.Action)) (settings : DisplayRules) (title : String)
    (actions : List Action) (tools : Tools) (now : Time) :
    let session := (Session.start source rule timing).run steps
    let app := (ofModel (.ofSession session settings) title).run actions
    (∀ key, (app.handleKey tools now key).1 = false → (app.handleKey tools now key).2 = app) ∧
      (∀ key, app.focus = .rule → key.isGlobal = false →
        ((app.handleKey tools now key).1 = false ↔ (app.handleKey tools now key).2 = app)) ∧
      ((app.tick tools now).1 = false ↔ (app.tick tools now).2 = app) := by
  intro session app
  have h : app.Grounded := run_grounded source rule timing steps settings title actions
  exact ⟨fun _ => h.handleKey_of_fst_eq_false,
    fun _ hfocus hlocal => h.handleKey_fst_eq_false_iff_of_rule hfocus hlocal,
    h.tick_fst_eq_false_iff⟩

/-- A session that has read this tree, with a rule for its leaves. -/
def spannedSession : Session :=
  (Session.start "word" "visitor: \x7b Leaf" .standard).run [(spannedTools, .recompute 0)]

/-- Everything is open, and actions are done to it. -/
def spannedApp (actions : List Action) : App :=
  (ofModel (.ofSession spannedSession openRules) "Ast").run actions

/-- From the first row Up has nowhere to go, nor has Left from the start of the rule, and a tick in
the quiet period after an edit has nothing to do; a tick after it runs the tools. -/
theorem unchanged_of_no_redraw_first :
    let app := spannedApp [.editSource "words" 1]
    let up := app.handleKey spannedTools 2 ⟨.up, false, false, false⟩
    let rule := app.toggleFocus
    let left := rule.handleKey spannedTools 2 ⟨.left, false, false, false⟩
    up.1 = false ∧ up.2 = app ∧ rule.focus = .rule ∧ (left.1 = false ↔ left.2 = rule) ∧
      left.1 = false ∧ (app.tick spannedTools 2).1 = false ∧ (app.tick spannedTools 2).2 = app ∧
      (app.tick spannedTools 9000000000).1 = true := by
  intro app up rule left
  have hup : up.1 = false := by
    unfold up app
    cbv
  have hleft : left.1 = false := by
    unfold left rule app
    cbv
  have htick : (app.tick spannedTools 2).1 = false := by
    unfold app
    cbv
  -- the first row cannot go up, the cursor at the start cannot go left, no timer is due
  obtain ⟨hkey, -, hsame⟩ := unchanged_of_no_redraw "word" "visitor: \x7b Leaf" .standard
    [(spannedTools, .recompute 0)] openRules "Ast" [.editSource "words" 1] spannedTools 2
  obtain ⟨-, hrule, -⟩ := unchanged_of_no_redraw "word" "visitor: \x7b Leaf" .standard
    [(spannedTools, .recompute 0)] openRules "Ast"
    [.editSource "words" 1, .key spannedTools 2 ⟨.tab, false, false, false⟩] spannedTools 2
  refine ⟨hup, hkey _ hup, rfl, hrule ⟨.left, false, false, false⟩ rfl rfl, hleft, htick,
    hsame.1 htick, ?_⟩
  unfold app
  cbv

end App

/-! ### Another active kind -/

namespace Model

/-- Setting the active kind keeps the settings. -/
theorem setActiveKind_settings (m : Model) (kind : Option String) :
    (m.setActiveKind kind).2.settings = m.settings := by
  unfold Model.setActiveKind
  by_cases hsame : m.activeKind = kind
  · rw [if_pos hsame]
  · rw [if_neg hsame]
    rfl

/-- A row is found by the keys of all rows. -/
theorem rowIndex_congr {m other : Model} (h : other.rows.map Row.key = m.rows.map Row.key)
    (key : LabelKey) : other.rowIndex key = m.rowIndex key := by
  have hkeys (m : Model) : m.rowIndex key = (m.rows.map Row.key).findIdx? (· == key) := by
    rw [List.findIdx?_map]
    rfl
  rw [hkeys, hkeys, h]

end Model

/-- So the selection stands at the same row, wherever the keys are the same. -/
theorem TreePane.selectedIndex_congr {m other : Model}
    (h : other.rows.map Row.key = m.rows.map Row.key) (pane : TreePane) :
    pane.selectedIndex other = pane.selectedIndex m := by
  have hempty : other.rows.isEmpty = m.rows.isEmpty := by
    simpa only [List.isEmpty_map] using congrArg List.isEmpty h
  have hlength : other.rows.length = m.rows.length := by
    simpa only [List.length_map] using congrArg List.length h
  unfold selectedIndex
  rw [hempty, hlength, funext (Model.rowIndex_congr h)]

namespace App

/-! ### Keys for the pane in focus -/

/-- The two applications have the same session, settings, flags and selection, and the same rows
but for their marks. -/
structure SameTree (app other : App) : Prop where
  session : other.model.session = app.model.session
  settings : other.model.settings = app.model.settings
  snapshot : other.model.store.snapshot = app.model.store.snapshot
  treePane : other.treePane = app.treePane
  selectedIndex :
    other.treePane.selectedIndex other.model = app.treePane.selectedIndex app.model
  rows : (other.model.rows.map fun row => { row with active := false }) =
    app.model.rows.map fun row => { row with active := false }

/-- The two applications have the same session, cursor and active kind. -/
structure SameRule (app other : App) : Prop where
  session : other.model.session = app.model.session
  rulePane : other.rulePane = app.rulePane
  activeKind : other.model.activeKind = app.model.activeKind

theorem sameTree_refl (app : App) : app.SameTree app := ⟨rfl, rfl, rfl, rfl, rfl, rfl⟩

/-- **A move of the rule's cursor** changes the marks of the rows at most: the new pass reads the
same tree under the same settings, and marks decide nothing else. -/
theorem Grounded.sameTree_moveCursor {app : App} (h : app.Grounded) (pane : RulePane) :
    app.SameTree (app.moveCursor pane) := by
  let kind := activeKindAt app.model.session.rule (pane.offset app.model.session.rule.toList)
  have hrows := h.fresh.rows_setActiveKind kind
  -- The selection is found by the keys of the rows, and a mark is no part of them.
  have hkeys : (app.moveCursor pane).model.rows.map Row.key = app.model.rows.map Row.key := by
    have hmarked := congrArg (List.map Row.key) hrows
    rwa [List.map_map, List.map_map] at hmarked
  exact {
    session := app.model.setActiveKind_session kind
    settings := app.model.setActiveKind_settings kind
    snapshot := h.fresh.snapshot_setActiveKind kind
    treePane := rfl
    selectedIndex := app.treePane.selectedIndex_congr hkeys
    rows := hrows }

/-- **A key acts on the pane in focus only.** In every run of the workbench, from a session after
any steps of its own, whatever the tools answer: a key that does not act on the whole application
leaves the session alone.  With the rule in focus it leaves the settings, the flags, the selection
and its index, and the rows up to their marks as they were; with the tree in focus the rule's cursor
and the active kind. -/
theorem keys_stay_in_pane (source rule : String) (timing : Timing)
    (steps : List (Tools × Session.Action)) (settings : DisplayRules) (title : String)
    (actions : List Action) (tools : Tools) (now : Time) (key : KeyPress)
    (hlocal : key.isGlobal = false) :
    let session := (Session.start source rule timing).run steps
    let app := (ofModel (.ofSession session settings) title).run actions
    let pressed := (app.handleKey tools now key).2
    (app.focus = .rule → app.SameTree pressed) ∧ (app.focus = .tree → app.SameRule pressed) := by
  intro session app pressed
  have h : app.Grounded := run_grounded source rule timing steps settings title actions
  have hpressed : pressed = (app.handlePaneKey key).2 :=
    congrArg Prod.snd (app.handleKey_of_not_isGlobal hlocal tools now)
  rw [hpressed]
  constructor
  · intro hfocus
    rcases handlePaneKey_of_rule hfocus key with heq | ⟨pane, -, -, heq⟩
    · rw [heq]
      exact app.sameTree_refl
    · rw [heq]
      -- a moved cursor may change the marks of the rows, and nothing else about the tree
      exact h.sameTree_moveCursor pane
  · intro hfocus
    obtain ⟨hsession, hkind, hpane⟩ := handlePaneKey_keeps_of_tree hfocus key
    exact ⟨hsession, hpane, hkind⟩

/-- With the rule in focus, End goes behind the name of a kind and marks the leaf in the tree; with
the tree in focus, Left closes the block, and the leaf stays the active kind. -/
theorem keys_stay_in_pane_leaf :
    let rule := spannedApp [.key spannedTools 0 ⟨.tab, false, false, false⟩]
    let marked := (rule.handleKey spannedTools 0 ⟨.endOfLine, false, false, false⟩).2
    let tree := spannedApp
      ([.tab, .endOfLine, .tab].map fun code => .key spannedTools 0 ⟨code, false, false, false⟩)
    let closed := (tree.handleKey spannedTools 0 ⟨.left, false, false, false⟩).2
    rule.focus = .rule ∧ marked.model.rows.map Row.active = [false, false, true] ∧
      rule.SameTree marked ∧
      tree.focus = .tree ∧ closed.model.rows.length = 1 ∧ tree.SameRule closed := by
  intro rule marked tree closed
  have hrule := (keys_stay_in_pane "word" "visitor: \x7b Leaf" .standard
    [(spannedTools, .recompute 0)] openRules "Ast" [.key spannedTools 0 ⟨.tab, false, false, false⟩]
    spannedTools 0 ⟨.endOfLine, false, false, false⟩ rfl).1
  have htree := (keys_stay_in_pane "word" "visitor: \x7b Leaf" .standard
    [(spannedTools, .recompute 0)] openRules "Ast"
    ([.tab, .endOfLine, .tab].map fun code => .key spannedTools 0 ⟨code, false, false, false⟩)
    spannedTools 0 ⟨.left, false, false, false⟩ rfl).2
  have hrulefocus : rule.focus = .rule := by
    unfold rule
    cbv
  have htreefocus : tree.focus = .tree := by
    unfold tree
    cbv
  -- both keys do something: one marks a row, the other closes the root
  refine ⟨hrulefocus, ?_, hrule hrulefocus, htreefocus, ?_, htree htreefocus⟩
  · unfold marked rule
    cbv
  · unfold closed tree
    cbv

end App

end TreeOutline
