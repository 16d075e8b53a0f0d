import TreeOutline.Proofs.Outline.Keys
import TreeOutline.Proofs.Value.Reading
import TreeOutline.Proofs.Workbench.Run
import TreeOutline.Workbench.Commands

namespace TreeOutline

/-!
# Finding rows by their keys

The rows of the workbench are told apart by their keys, so a key leads back to its row.

* `Tools.WellFormed`, `Action.WellFormed` — a parser whose maps have distinct field names.
* `wellFormed_fileTools`, `wellFormed_commandTools` — the parsers that there are answer so.
* `Model.run_wellFormed` — with such parsers the tree of a model stays well formed.
* `Model.rowIndex_getElem` — where keys are distinct, the key of a row leads to its index.
* `rows_told_apart` — keys are distinct in every rendering, and in every run a key leads to its row
  and a toggle to one row only.
-/

/-- Every map in the parser's answers has distinct field names. -/
def Tools.WellFormed (tools : Tools) : Prop :=
  ∀ source value, tools.parse source = .ok value → value.WellFormed

/-- The tools that the action brings answer with distinct field names. -/
def Model.Action.WellFormed : Model.Action → Prop
  | .tick tools _ => tools.WellFormed
  | .recompute tools _ => tools.WellFormed
  | _ => True

/-! ### The parsers that there are -/

/-- A tree that is loaded is well formed. -/
theorem mapError_loadTree_wellFormed {format : TreeFormat} {text : String} {value : Value}
    (h : (loadTree format text).mapError ToolProblem.tree = .ok value) : value.WellFormed := by
  cases hload : loadTree format text with
  | error problem =>
    rw [hload] at h
    exact nomatch h
  | ok tree =>
    rw [hload] at h
    cases h
    exact loadTree_wellFormed hload

/-- The parser of tree files answers with distinct field names. -/
theorem wellFormed_fileTools (format : TreeFormat)
    (transform : Option (String → String → Except ToolProblem String)) :
    Tools.WellFormed ⟨parseAsTree format, transform⟩ :=
  fun _ _ hparse => mapError_loadTree_wellFormed hparse

/-- A command that prints a tree answers with distinct field names. -/
theorem wellFormed_commandTools (command : String)
    (transform : Option (String → String → Except ToolProblem String)) :
    Tools.WellFormed ⟨parseByCommand command, transform⟩ := by
  intro source value hparse
  change parseByCommand command source = .ok value at hparse
  unfold parseByCommand at hparse
  cases houtput : commandOutput command source [] with
  | error problem =>
    rw [houtput] at hparse
    exact nomatch hparse
  | ok text =>
    rw [houtput] at hparse
    exact mapError_loadTree_wellFormed hparse

/-! ### Where the tree comes from -/

namespace Session

/-- After a recompute the tree is the one that was read, or the last one. -/
theorem recompute_tree (s : Session) (tools : Tools) (now : Time) :
    (s.recompute tools now).tree = (tools.parse s.source).toOption.or s.tree := by
  let r : Recompute := ⟨tools, s.source, s.rule, now⟩
  exact congrArg Session.tree (recompute_eq (s := s) (r := r) rfl rfl)

/-- After a tick the tree is the last one or that of a recompute. -/
theorem tick_tree (s : Session) (tools : Tools) (now : Time) :
    (s.tick tools now).2.tree = s.tree ∨
      (s.tick tools now).2.tree = (s.recompute tools now).tree := by
  unfold tick
  by_cases hdue : s.edits.isDue now = true
  · rw [if_pos hdue]
    exact .inr (congrArg (·.1) ((s.recompute tools now).surfaceError_results now))
  · rw [if_neg hdue]
    exact .inl (congrArg (·.1) (s.surfaceError_results now))

/-- Tools that answer with distinct field names keep the tree well formed. -/
theorem recompute_wellFormed {s : Session} (h : WellFormedTree s.tree) {tools : Tools}
    (htools : tools.WellFormed) (now : Time) : WellFormedTree (s.recompute tools now).tree := by
  rw [recompute_tree]
  cases hparse : tools.parse s.source with
  | ok value =>
    intro tree htree
    rw [← Option.mem_some_iff.1 htree]
    exact htools s.source value hparse
  -- the last good tree stays
  | error problem => exact h

/-- A tick keeps the session's tree well formed, if the tools make such trees. -/
theorem tick_wellFormed {s : Session} (h : WellFormedTree s.tree) {tools : Tools}
    (htools : tools.WellFormed) (now : Time) : WellFormedTree (s.tick tools now).2.tree := by
  rcases s.tick_tree tools now with heq | heq
  · rw [heq]
    exact h
  · rw [heq]
    exact recompute_wellFormed h htools now

end Session

namespace Model

/-- A key that only one row has leads to this row. -/
theorem rowIndex_getElem {m : Model} (hnodup : (m.rows.map Row.key).Nodup) {i : Nat}
    (hi : i < m.rows.length) : m.rowIndex m.rows[i].key = some i := by
  unfold rowIndex
  rw [List.findIdx?_eq_some_iff_getElem]
  refine ⟨hi, by simp, fun j hj => ?_⟩
  -- An earlier row with the same key would be the same row.
  intro heq
  have hij : j = i := index_eq_of_key_eq hnodup (by omega) hi (by simpa using heq)
  omega

/-- Every action keeps the tree well formed, if the tools it brings answer so. -/
theorem act_wellFormed {m : Model} (h : WellFormedTree m.session.tree) {action : Action}
    (haction : action.WellFormed) : WellFormedTree (m.act action).session.tree := by
  cases action with
  | toggle key =>
    rw [act, toggle_session]
    exact h
  | toggleVariant => exact h
  | setActiveKind kind =>
    rw [act, setActiveKind_session]
    exact h
  | setRuleCursor offset =>
    rw [act, setRuleCursor, setActiveKind_session]
    exact h
  | editSource source now => exact h
  | editRule rule now => exact h
  -- of all actions only a tick and a recompute ask the tools for a tree
  | tick tools now =>
    rw [act, tick_session]
    exact Session.tick_wellFormed h haction now
  | recompute tools now => exact Session.recompute_wellFormed h haction now
  | refresh => exact h

/-- Every run keeps the tree well formed, if all tools in it answer so. -/
theorem run_wellFormed {m : Model} (h : WellFormedTree m.session.tree) {actions : List Action}
    (hactions : ∀ action ∈ actions, action.WellFormed) :
    WellFormedTree (m.run actions).session.tree := by
  induction actions generalizing m with
  | nil => exact h
  | cons action rest ih =>
    have hfirst : action.WellFormed := hactions action List.mem_cons_self
    exact ih (act_wellFormed h hfirst) fun other hother =>
      hactions other (List.mem_cons_of_mem _ hother)

/-- The rows of a fresh model with a well-formed tree have distinct keys. -/
theorem Fresh.rowKeys_nodup {m : Model} (h : m.Fresh) (wf : WellFormedTree m.session.tree) :
    (m.rows.map Row.key).Nodup := by
  rw [h.rows_eq_renderRoot]
  exact TreeOutline.rowKeys_nodup m.rules wf m.store

end Model

/-- **Rows are told apart.** The rows of a well-formed tree have pairwise distinct keys, under any
rules and with any store.  So in every run of the workbench the key of a row leads to its index,
and a toggle that succeeds is that of exactly one row. -/
theorem rows_told_apart :
    (∀ (rules : DisplayRules) (tree : Option Value) (store : ExpansionStore),
      WellFormedTree tree → ((renderRoot rules tree store).1.rows.map Row.key).Nodup) ∧
    ∀ (session : Session) (settings : DisplayRules) (actions : List Model.Action),
      WellFormedTree session.tree → (∀ action ∈ actions, action.WellFormed) →
      let m := (Model.ofSession session settings).run actions
      (∀ (i : Nat) (hi : i < m.rows.length), m.rowIndex m.rows[i].key = some i) ∧
        ∀ key, (m.toggle key).1 = true → ∃! i, ∃ hi : i < m.rows.length, m.rows[i].key = key := by
  refine ⟨fun rules tree store wf => rowKeys_nodup rules wf store, ?_⟩
  intro session settings actions wf hactions m
  have hfresh : m.Fresh := (Model.fresh_ofSession session settings).run actions
  have hnodup : (m.rows.map Row.key).Nodup :=
    hfresh.rowKeys_nodup (Model.run_wellFormed wf hactions)
  refine ⟨fun i hi => Model.rowIndex_getElem hnodup hi, fun key htoggle => ?_⟩
  -- a toggle succeeds at a row, and keys are told apart, so at one row only
  obtain ⟨row, hrow, hkey, -⟩ := hfresh.toggle_fst_iff.1 htoggle
  obtain ⟨i, hi, hget⟩ := List.mem_iff_getElem.1 hrow
  refine ⟨i, ⟨hi, by rw [hget, hkey]⟩, ?_⟩
  rintro j ⟨hj, hother⟩
  exact index_eq_of_key_eq hnodup hj hi (by rw [hother, hget, hkey])

/-! ### A tree with steps that look alike -/

/-- A field named like a position, with a single node in it, and lists in a list. -/
def numberedTree : Value :=
  .map [("type", .str "Block"), ("0", .map [("type", .str "Leaf")]),
    ("body", .list [.map [("type", .str "Empty")], .list [.list [.int 1]]])]

/-- No object of the example has a name twice. -/
theorem numberedTree_wellFormed : numberedTree.WellFormed := by
  simp [numberedTree, Value.WellFormed, Value.ItemsWellFormed, Value.FieldsWellFormed]

/-- A parser that always reads this tree. -/
def numberedTools : Tools := ⟨fun _ => .ok numberedTree, none⟩

/-- The tree after a recompute, with everything open. -/
def numberedModel : Model :=
  (Model.ofSession (.start "" "" .standard) { DisplayRules.standard with openDepth := 9 }).run
    [.recompute numberedTools 0]

/-- The group named `0` and the node in it share a path, and a list in a list has a row named
`0` too.  Each of the six rows is found under its own key. -/
theorem rows_told_apart_numbered :
    WellFormedTree none ∧ numberedTools.WellFormed ∧ numberedModel.rows.map Row.key =
      [⟨.node, []⟩, ⟨.group, [.field "0"]⟩, ⟨.node, [.field "0"]⟩, ⟨.group, [.field "body"]⟩,
        ⟨.node, [.field "body", .index 0]⟩, ⟨.group, [.field "body", .index 1, .index 0]⟩] ∧
      (∀ (i : Nat) (hi : i < numberedModel.rows.length),
        numberedModel.rowIndex numberedModel.rows[i].key = some i) ∧
      ∃! i, ∃ hi : i < numberedModel.rows.length,
        numberedModel.rows[i].key = ⟨.group, [.field "0"]⟩ := by
  have htools : numberedTools.WellFormed := by
    intro source value hparse
    rw [← Except.ok.inj hparse]
    exact numberedTree_wellFormed
  have hnone : WellFormedTree none := fun value hvalue => nomatch hvalue
  obtain ⟨hindex, htoggle⟩ := rows_told_apart.2 (.start "" "" .standard)
    { DisplayRules.standard with openDepth := 9 } [.recompute numberedTools 0] hnone
    (fun action haction => by rw [List.mem_singleton.1 haction]; exact htools)
  -- a field named like an index, and a group and a node at one path
  exact ⟨hnone, htools, by cbv, hindex, htoggle _ (by cbv)⟩

end TreeOutline
