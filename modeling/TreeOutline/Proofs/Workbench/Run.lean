import TreeOutline.Proofs.Outline.Label
import TreeOutline.Proofs.Workbench.History
import TreeOutline.Workbench.Model

namespace TreeOutline

/-!
# Runs of the workbench

Whatever is done to the workbench, its rows are those of the last good tree.

* `Model.Action`, `Model.run` — everything that can be done to a model, in any order and at any
  time; each step that runs the tools brings its own, so they may answer as they like.
* `Model.Fresh` — the invariant: the rows are those of the tree, and the store is as a pass over
  the tree leaves it.
* `Fresh.act`, `Fresh.run` — each action keeps it, so a whole run does.
* `run_never_stale` — what the invariant says of rows, snapshot and toggles.
-/

/-! ### What a session keeps -/

namespace Session

/-- A tick that has nothing new to show ran no tools, so the tree is the same. -/
theorem tick_tree_of_fst_eq_false {s : Session} {tools : Tools} {now : Time}
    (h : (s.tick tools now).1 = false) :
    (s.tick tools now).2.tree = s.tree ∧ (s.tick tools now).2.treeSource = s.treeSource := by
  unfold tick at h ⊢
  by_cases hdue : s.edits.isDue now = true
  · -- A tick that runs the tools always says so.
    rw [if_pos hdue] at h
    exact absurd h (by simp)
  · rw [if_neg hdue]
    have hresults := s.surfaceError_results now
    exact ⟨congrArg (·.1) hresults, congrArg (·.2.1) hresults⟩

end Session

namespace Model

/-! ### Actions and runs -/

/-- What can be done to a model. -/
inductive Action where
  | toggle (key : LabelKey)
  | toggleVariant
  | setActiveKind (kind : Option String)
  | setRuleCursor (offset : Nat)
  | editSource (source : String) (now : Time)
  | editRule (rule : String) (now : Time)
  | tick (tools : Tools) (now : Time)
  | recompute (tools : Tools) (now : Time)
  | refresh

/-- The model after one action. -/
def act (m : Model) : Action → Model
  | .toggle key => (m.toggle key).2
  | .toggleVariant => m.toggleVariant
  | .setActiveKind kind => (m.setActiveKind kind).2
  | .setRuleCursor offset => (m.setRuleCursor offset).2
  | .editSource source now => m.editSource source now
  | .editRule rule now => m.editRule rule now
  | .tick tools now => (m.tick tools now).2
  | .recompute tools now => m.recompute tools now
  | .refresh => m.refresh

/-- The model after a list of actions. -/
def run (m : Model) (actions : List Action) : Model := actions.foldl act m

/-- **Induction over runs.** What every action keeps, a run keeps. -/
theorem run_induction {P : Model → Prop} (step : ∀ m action, P m → P (m.act action)) {m : Model}
    (h : P m) (actions : List Action) : P (m.run actions) := by
  induction actions generalizing m with
  | nil => exact h
  | cons action rest ih => exact ih (step m action h)

/-! ### What the steps do to the session -/

@[simp] theorem toggle_session (m : Model) (key : LabelKey) :
    (m.toggle key).2.session = m.session := by
  unfold Model.toggle
  rcases m.store.toggle key with ⟨_ | isOpen, store⟩
  · rfl
  · rfl

@[simp] theorem setActiveKind_session (m : Model) (kind : Option String) :
    (m.setActiveKind kind).2.session = m.session := by
  unfold Model.setActiveKind
  by_cases hsame : m.activeKind = kind
  · rw [if_pos hsame]
  · rw [if_neg hsame]
    rfl

@[simp] theorem tick_session (m : Model) (tools : Tools) (now : Time) :
    (m.tick tools now).2.session = (m.session.tick tools now).2 := by
  unfold Model.tick
  rcases m.session.tick tools now with ⟨_ | _, session⟩
  · rfl
  · rfl

/-! ### The invariant -/

/-- Nothing is stale: the rows are those of the last good tree under the current rules, and the
store is as a pass over this tree leaves it. -/
structure Fresh (m : Model) : Prop where
  settled : m.store.Settled m.rules m.session.tree
  rows_eq : m.rows = labelRows (m.store.flags m.rules) (rootLabels m.rules m.session.tree) 0

/-- **A refresh makes a model fresh**, whatever its rows were. -/
theorem fresh_refresh {m : Model} (h : m.store.SeenBounded) : m.refresh.Fresh where
  settled := h.settled m.rules m.session.tree
  rows_eq := rows_renderRoot_flags h

/-- A new model shows what rendering would show. -/
theorem fresh_ofSession (session : Session) (settings : DisplayRules) :
    (ofSession session settings).Fresh :=
  fresh_refresh .empty

namespace Fresh

variable {m : Model}

/-- A change of the session that keeps the tree and its text needs no refresh. -/
theorem with_session (h : m.Fresh) {session : Session} (htree : session.tree = m.session.tree)
    (hsource : session.treeSource = m.session.treeSource) :
    ({ m with session } : Model).Fresh := by
  -- of the session the rows depend on its tree and the source the tree is of
  have hrules : ({ m with session } : Model).rules = m.rules := by
    unfold rules
    rw [hsource]
  constructor
  · rw [hrules]
    show m.store.Settled m.rules session.tree
    rw [htree]
    exact h.settled
  · rw [hrules]
    show m.rows = labelRows (m.store.flags m.rules) (rootLabels m.rules session.tree) 0
    rw [htree]
    exact h.rows_eq

/-- Toggling renders anew. -/
theorem toggle (h : m.Fresh) (key : LabelKey) : (m.toggle key).2.Fresh := by
  unfold Model.toggle
  -- A toggle unsettles the store; the refresh after it needs the pass invariant only.
  have hseen : (m.store.toggle key).2.SeenBounded := h.settled.seenBounded.toggle key
  rcases htoggle : m.store.toggle key with ⟨_ | isOpen, store⟩
  · exact h
  · rw [htoggle] at hseen
    exact fresh_refresh hseen

/-- Setting the active kind renders anew where that changes anything. -/
theorem setActiveKind (h : m.Fresh) (kind : Option String) : (m.setActiveKind kind).2.Fresh := by
  unfold Model.setActiveKind
  by_cases hsame : m.activeKind = kind
  · rw [if_pos hsame]
    exact h
  · rw [if_neg hsame]
    exact fresh_refresh h.settled.seenBounded

/-- A tick renders anew where the tree may have changed. -/
theorem tick (h : m.Fresh) (tools : Tools) (now : Time) : (m.tick tools now).2.Fresh := by
  unfold Model.tick
  rcases htick : m.session.tick tools now with ⟨changed, session⟩
  cases changed with
  | true => exact fresh_refresh h.settled.seenBounded
  -- nothing to show, so tree and source of the tree are the same
  | false =>
    have hsame : (m.session.tick tools now).1 = false := by rw [htick]
    obtain ⟨htree, hsource⟩ := Session.tick_tree_of_fst_eq_false hsame
    rw [htick] at htree hsource
    exact h.with_session htree hsource

/-- **Step.** Every action keeps a model fresh.  Those that skip the refresh change neither the
tree nor what its rendering reads. -/
theorem act (h : m.Fresh) (action : Action) : (m.act action).Fresh := by
  -- every action rebuilds, or it keeps what the rows are made of
  cases action with
  | toggle key => exact h.toggle key
  | toggleVariant => exact fresh_refresh h.settled.seenBounded
  | setActiveKind kind => exact h.setActiveKind kind
  | setRuleCursor offset => exact h.setActiveKind _
  | editSource source now => exact h.with_session rfl rfl
  | editRule rule now => exact h.with_session rfl rfl
  | tick tools now => exact h.tick tools now
  | recompute tools now => exact fresh_refresh h.settled.seenBounded
  | refresh => exact fresh_refresh h.settled.seenBounded

/-- **Run.** Every run keeps a model fresh. -/
theorem run (h : m.Fresh) (actions : List Action) : (m.run actions).Fresh :=
  run_induction (fun _ action hm => hm.act action) h actions

/-! ### What a fresh model shows -/

/-- The rows are those of rendering the tree as the store stands. -/
theorem rows_eq_renderRoot (h : m.Fresh) :
    m.rows = (renderRoot m.rules m.session.tree m.store).1.rows := by
  rw [rows_renderRoot]
  exact h.rows_eq

/-- The labels that a pass over the tree visits are the rows with a toggle. -/
theorem mem_toggleKeys_iff (h : m.Fresh) {key : LabelKey} :
    key ∈ (viewRoot m.rules (m.store.flags m.rules) m.session.tree).toggleKeys ↔
      ∃ row ∈ m.rows, row.key = key ∧ row.toggle.isToggleable = true := by
  rw [TreeOutline.mem_toggleKeys_iff, rows_viewRoot, ← h.rows_eq]

/-- A row with a toggle shows the flag that the store has for it. -/
theorem toggle_eq (h : m.Fresh) {row : Row} (hrow : row ∈ m.rows)
    (htoggle : row.toggle.isToggleable = true) :
    row.toggle = .ofOpen (m.store.flags m.rules row.key) := by
  rw [h.rows_eq] at hrow
  exact toggle_of_mem_labelRows hrow htoggle

/-- **No dangling flags.** The store holds a flag exactly for the rows with a toggle, and it is
the flag that the row shows. -/
theorem peek_eq_some_iff (h : m.Fresh) {key : LabelKey} {isOpen : Bool} :
    m.store.peek key = some isOpen ↔
      ∃ row ∈ m.rows, row.key = key ∧ row.toggle = .ofOpen isOpen := by
  rw [h.settled.peek_eq]
  constructor
  · intro hpeek
    -- after a pass the store has the keys of the rows that can be toggled, and no others
    by_cases hin : key ∈ (viewRoot m.rules (m.store.flags m.rules) m.session.tree).toggleKeys
    · rw [if_pos hin, Option.some_inj] at hpeek
      obtain ⟨row, hrow, hkey, htoggle⟩ := h.mem_toggleKeys_iff.1 hin
      refine ⟨row, hrow, hkey, ?_⟩
      rw [h.toggle_eq hrow htoggle, hkey, hpeek]
    · rw [if_neg hin] at hpeek
      exact absurd hpeek (by simp)
  · rintro ⟨row, hrow, hkey, htoggle⟩
    have htoggleable : row.toggle.isToggleable = true := by
      rw [htoggle, Toggle.isToggleable_ofOpen]
    have hflag : m.store.flags m.rules row.key = isOpen := by
      have hshows := h.toggle_eq hrow htoggleable
      rw [htoggle] at hshows
      rw [← Toggle.isOpen_ofOpen (m.store.flags m.rules row.key), ← hshows, Toggle.isOpen_ofOpen]
    rw [if_pos (h.mem_toggleKeys_iff.2 ⟨row, hrow, hkey, htoggleable⟩), ← hkey, hflag]

end Fresh

/-- A toggle succeeds where the store has a flag. -/
theorem toggle_fst_eq_true_iff {m : Model} {key : LabelKey} :
    (m.toggle key).1 = true ↔ ∃ isOpen, m.store.peek key = some isOpen := by
  unfold Model.toggle ExpansionStore.toggle
  cases m.store.peek key with
  | none => simp
  | some isOpen => simp

/-- A toggle that fails changes nothing, in the model or in its store. -/
theorem toggle_snd_of_fst_eq_false {m : Model} {key : LabelKey}
    (h : (m.toggle key).1 = false) :
    (m.toggle key).2 = m ∧ (m.store.toggle key).2 = m.store := by
  unfold Model.toggle ExpansionStore.toggle at *
  cases hpeek : m.store.peek key with
  | none => exact ⟨rfl, rfl⟩
  | some isOpen =>
    rw [hpeek] at h
    exact absurd h (by simp)

/-- A toggle of a fresh model succeeds exactly on the rows with a toggle. -/
theorem Fresh.toggle_fst_iff {m : Model} (h : m.Fresh) {key : LabelKey} :
    (m.toggle key).1 = true ↔ ∃ row ∈ m.rows, row.key = key ∧ row.toggle.isToggleable = true := by
  rw [toggle_fst_eq_true_iff]
  constructor
  · -- a toggle succeeds at the keys the store knows
    rintro ⟨isOpen, hpeek⟩
    obtain ⟨row, hrow, hkey, htoggle⟩ := h.peek_eq_some_iff.1 hpeek
    exact ⟨row, hrow, hkey, by rw [htoggle, Toggle.isToggleable_ofOpen]⟩
  · rintro ⟨row, hrow, hkey, htoggle⟩
    exact ⟨_, h.peek_eq_some_iff.2 ⟨row, hrow, hkey, h.toggle_eq hrow htoggle⟩⟩

/-- **A model is never stale.** After any actions, at any times and with tools that answer as they
like, the rows are those of the last good tree under the current rules: another refresh changes
neither them nor the snapshot.  The store holds a flag exactly for the rows with a toggle, the one
that the row shows; so a toggle succeeds on those rows, and elsewhere it changes nothing. -/
theorem run_never_stale (session : Session) (settings : DisplayRules) (actions : List Action) :
    let m := (ofSession session settings).run actions
    m.rows = (renderRoot m.rules m.session.tree m.store).1.rows ∧
      m.refresh.rows = m.rows ∧ m.refresh.store.snapshot = m.store.snapshot ∧
      (∀ key isOpen, (key, isOpen) ∈ m.store.snapshot ↔
        ∃ row ∈ m.rows, row.key = key ∧ row.toggle = .ofOpen isOpen) ∧
      (∀ key, (m.toggle key).1 = true ↔
        ∃ row ∈ m.rows, row.key = key ∧ row.toggle.isToggleable = true) ∧
      (∀ key, (m.toggle key).1 = false →
        (m.toggle key).2 = m ∧ (m.store.toggle key).2 = m.store) := by
  intro m
  -- the rows are those of a rendering with the present rules, tree and flags
  have hfresh : m.Fresh := (fresh_ofSession session settings).run actions
  refine ⟨hfresh.rows_eq_renderRoot, hfresh.rows_eq_renderRoot.symm,
    hfresh.settled.snapshot_renderRoot, fun key isOpen => ?_, fun key => hfresh.toggle_fst_iff,
    fun key hfails => toggle_snd_of_fst_eq_false hfails⟩
  rw [ExpansionStore.mem_snapshot_iff]
  exact hfresh.peek_eq_some_iff

end Model

end TreeOutline
