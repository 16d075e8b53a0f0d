import TreeOutline.Proofs.Workbench.Application
import TreeOutline.Proofs.Workbench.Rows

namespace TreeOutline

/-!
# Models of an application

Whatever happens to an application, its model goes through steps of its own; so what a run of a
model keeps, a run of the application keeps.

* `App.exists_act_model` — every action is a run of the model, with the tools of the action.
* `App.Sound` — the invariant: the rows are not stale, and the tree is well formed.
* `Sound.act`, `Sound.run`, `App.run_sound` — it holds in all runs whose tools answer with distinct
  field names.
* `Sound.rowKeys_nodup`, `Sound.rowIndex_getElem` — the rows are told apart by their keys.
-/

namespace App

/-- The tools that the action brings answer with distinct field names. -/
def Action.WellFormed : Action → Prop
  | .key tools _ _ => tools.WellFormed
  | .tick tools _ => tools.WellFormed
  | .recompute tools _ => tools.WellFormed
  | _ => True

/-! ### What happens to the model -/

/-- What a pane asks for is one step of the model, or none. -/
theorem exists_process_model (app : App) (event : PaneEvent) :
    ∃ actions : List Model.Action, (app.process event).2.model = app.model.run actions ∧
      ∀ action ∈ actions, action.WellFormed := by
  cases event with
  | none | selected key => exact ⟨[], rfl, fun _ h => nomatch h⟩
  | toggle key => exact ⟨[.toggle key], rfl, List.forall_mem_singleton.2 trivial⟩
  | toggleVariant => exact ⟨[.toggleVariant], rfl, List.forall_mem_singleton.2 trivial⟩
  | cursorMoved offset => exact ⟨[.setRuleCursor offset], rfl, List.forall_mem_singleton.2 trivial⟩

/-- So is a key for the pane in focus: the pane itself is no part of the model. -/
theorem exists_handlePaneKey_model (app : App) (key : KeyPress) :
    ∃ actions : List Model.Action, (app.handlePaneKey key).2.model = app.model.run actions ∧
      ∀ action ∈ actions, action.WellFormed := by
  cases hfocus : app.focus with
  | tree =>
    rw [handlePaneKey_of_tree hfocus]
    exact exists_process_model _ _
  | rule =>
    -- in the rule a key does nothing, or it moves the cursor
    rcases handlePaneKey_of_rule hfocus key with heq | ⟨pane, -, -, heq⟩
    · rw [heq]
      exact ⟨[], rfl, fun _ h => nomatch h⟩
    · rw [heq]
      exact ⟨[.setRuleCursor _], rfl, List.forall_mem_singleton.2 trivial⟩

/-- A key is at most one step of the model; only a recompute brings its tools. -/
theorem exists_handleKey_model (app : App) (tools : Tools) (now : Time) (key : KeyPress) :
    ∃ actions : List Model.Action, (app.handleKey tools now key).2.model = app.model.run actions ∧
      (tools.WellFormed → ∀ action ∈ actions, action.WellFormed) := by
  cases hglobal : key.isGlobal with
  | false =>
    rw [app.handleKey_of_not_isGlobal hglobal]
    obtain ⟨actions, hmodel, hactions⟩ := app.exists_handlePaneKey_model key
    exact ⟨actions, hmodel, fun _ => hactions⟩
  | true =>
    -- of the global keys only the last one reaches the model
    rcases app.handleKey_of_isGlobal hglobal tools now with heq | heq | heq
    · rw [heq]
      exact ⟨[], rfl, fun _ _ h => nomatch h⟩
    · rw [heq]
      exact ⟨[], rfl, fun _ _ h => nomatch h⟩
    · rw [heq]
      exact ⟨[.recompute tools now], rfl, fun h => List.forall_mem_singleton.2 h⟩

/-- **Every action is a run of the model**, with the tools of the action. -/
theorem exists_act_model (app : App) (action : Action) :
    ∃ actions : List Model.Action, (app.act action).model = app.model.run actions ∧
      (action.WellFormed → ∀ step ∈ actions, step.WellFormed) := by
  cases action with
  | key tools now press => exact app.exists_handleKey_model tools now press
  | tick tools now => exact ⟨[.tick tools now], rfl, fun h => List.forall_mem_singleton.2 h⟩
  | recompute tools now =>
    exact ⟨[.recompute tools now], rfl, fun h => List.forall_mem_singleton.2 h⟩
  -- the rule is replaced first, then the cursor is set into the new one
  | ruleChanged rule now =>
    let offset := (app.rulePane.clampTo rule.toList).offset rule.toList
    refine ⟨[.editRule rule now, .setRuleCursor offset], rfl, fun _ => ?_⟩
    exact List.forall_mem_cons.2 ⟨trivial, List.forall_mem_singleton.2 trivial⟩
  | editSource source now =>
    exact ⟨[.editSource source now], rfl, fun _ => List.forall_mem_singleton.2 trivial⟩

/-! ### The invariant -/

/-- The rows of the application are those of its tree, and the maps of the tree have distinct field
names. -/
structure Sound (app : App) : Prop where
  fresh : app.model.Fresh
  tree : WellFormedTree app.model.session.tree

/-- A session that has just started has no tree yet. -/
theorem wellFormedTree_start (source rule : String) (timing : Timing) :
    WellFormedTree (Session.start source rule timing).tree := by
  rintro _ ⟨⟩

/-- An application that opens with a well-formed tree is sound. -/
theorem sound_ofModel (session : Session) (wf : WellFormedTree session.tree)
    (settings : DisplayRules) (title : String) :
    (ofModel (.ofSession session settings) title).Sound where
  fresh := Model.fresh_ofSession session settings
  tree := wf

namespace Sound

variable {app : App}

/-- **Step.** Every action with such tools keeps an application sound. -/
theorem act (h : app.Sound) {action : Action} (haction : action.WellFormed) :
    (app.act action).Sound := by
  obtain ⟨actions, hmodel, hactions⟩ := app.exists_act_model action
  constructor
  · rw [hmodel]
    exact h.fresh.run actions
  · rw [hmodel]
    exact Model.run_wellFormed h.tree (hactions haction)

/-- **Run.** So does every run. -/
theorem run (h : app.Sound) {actions : List Action} (hactions : ∀ a ∈ actions, a.WellFormed) :
    (app.run actions).Sound := by
  induction actions generalizing app with
  | nil => exact h
  | cons action rest ih =>
    have hfirst : action.WellFormed := hactions action List.mem_cons_self
    exact ih (h.act hfirst) fun other hother => hactions other (List.mem_cons_of_mem _ hother)

/-- A sound application has no two rows with the same key. -/
theorem rowKeys_nodup (h : app.Sound) : (app.model.rows.map Row.key).Nodup :=
  h.fresh.rowKeys_nodup h.tree

/-- The key of a row leads back to it. -/
theorem rowIndex_getElem (h : app.Sound) {i : Nat} (hi : i < app.model.rows.length) :
    app.model.rowIndex app.model.rows[i].key = some i :=
  Model.rowIndex_getElem h.rowKeys_nodup hi

end Sound

/-- Every run of the workbench is sound, if all tools in it answer with distinct field names. -/
theorem run_sound {session : Session} (wf : WellFormedTree session.tree) (settings : DisplayRules)
    (title : String) {actions : List Action} (hactions : ∀ a ∈ actions, a.WellFormed) :
    ((ofModel (.ofSession session settings) title).run actions).Sound :=
  (sound_ofModel session wf settings title).run hactions

end App

end TreeOutline
