import TreeOutline.Proofs.Workbench.Selection

namespace TreeOutline

/-!
# When the selected label is gone

The selection is remembered by a key, and for the time when its label is not shown any more by an
index.  The index is that of the last key press that chose a row: it does not follow the row when
the rows change after it.

* `App.keyAtRow_cases`, `Sound.handleKey_cases`, `Sound.act_cases` — an action leaves the selection
  alone, selects a row, or toggles and selects one.
* `Sound.treePane_act` — where it does not leave it alone, it remembers the index of a row.
* `ChosenBy`, `exists_chosenBy` — over a run: the index is the one at which the row stood after the
  last key press that chose it.
* `selection_after_rebuild` — what becomes of the selection when the rows are replaced.
* `selection_falls_behind` — the row moved, and the selection falls back to where it was before.
-/

namespace App

/-! ### What an action does to the selection -/

/-- A key on a row leaves the selection alone, or selects or toggles a row. -/
theorem keyAtRow_cases (app : App) {i : Nat} (hi : i < app.model.rows.length) (code : KeyCode) :
    (app.keyAtRow i hi code).2.treePane = app.treePane ∨
      (∃ j hj, (app.keyAtRow i hi code).2 = app.selectRow j hj) ∨
      (app.model.rows[i].toggle.isToggleable = true ∧
        (app.keyAtRow i hi code).2 = app.toggleRow i hi) := by
  cases code with
  | up =>
    rw [keyAtRow]
    by_cases hfirst : 0 < i
    · rw [if_pos hfirst]
      exact .inr (.inl ⟨i - 1, (Nat.sub_le i 1).trans_lt hi, rfl⟩)
    · rw [if_neg hfirst]
      exact .inl rfl
  | down =>
    rw [keyAtRow]
    by_cases hnext : i + 1 < app.model.rows.length
    · rw [dif_pos hnext]
      exact .inr (.inl ⟨i + 1, hnext, rfl⟩)
    · rw [dif_neg hnext]
      exact .inl rfl
  | home => exact .inr (.inl ⟨0, Nat.zero_lt_of_lt hi, rfl⟩)
  | endOfLine => exact .inr (.inl ⟨app.model.rows.length - 1, Nat.sub_one_lt_of_lt hi, rfl⟩)
  | left =>
    rw [keyAtRow]
    by_cases hopened : app.model.rows[i].toggle = .opened
    · rw [if_pos hopened]
      exact .inr (.inr ⟨by rw [hopened]; rfl, rfl⟩)
    · rw [if_neg hopened]
      exact .inl rfl
  | right =>
    rw [keyAtRow]
    by_cases hclosed : app.model.rows[i].toggle = .closed
    · rw [if_pos hclosed]
      exact .inr (.inr ⟨by rw [hclosed]; rfl, rfl⟩)
    · rw [if_neg hclosed]
      exact .inl rfl
  | enter =>
    rw [keyAtRow]
    by_cases htoggle : app.model.rows[i].toggle.isToggleable = true
    · rw [if_pos htoggle]
      exact .inr (.inr ⟨htoggle, rfl⟩)
    · rw [if_neg htoggle]
      exact .inl rfl
  | char c =>
    -- The letter that changes the variant concerns the model only, all others nothing.
    refine .inl ?_
    by_cases hv : c = 'v'
    · subst hv
      rfl
    · simp [keyAtRow, hv]
  | tab | escape | backspace | function n => exact .inl rfl

/-- What the rule pane asks for does not concern the tree pane. -/
theorem treePane_handlePaneKey_of_rule {app : App} (h : app.focus = .rule) (key : KeyPress) :
    (app.handlePaneKey key).2.treePane = app.treePane := by
  rcases handlePaneKey_of_rule h key with heq | ⟨pane, -, -, heq⟩
  · rw [heq]
  · rw [heq]
    rfl

/-- Without rows no key selects one. -/
theorem treePane_handlePaneKey_of_none {app : App} (hfocus : app.focus = .tree)
    (hnone : app.treePane.selectedIndex app.model = none) (key : KeyPress) :
    (app.handlePaneKey key).2.treePane = app.treePane := by
  rw [handlePaneKey_of_tree hfocus]
  unfold TreePane.handleKey
  rw [hnone]
  rfl

namespace Sound

variable {app : App} (h : app.Sound)
include h

/-- So does any key: the tree pane's by the row it is at, all others leave the selection alone. -/
theorem handleKey_cases (tools : Tools) (now : Time) (key : KeyPress) :
    (app.handleKey tools now key).2.treePane = app.treePane ∨
      (∃ i hi, (app.handleKey tools now key).2 = app.selectRow i hi) ∨
      ∃ i hi, app.treePane.selectedIndex app.model = some i ∧
        app.model.rows[i].toggle.isToggleable = true ∧
        (app.handleKey tools now key).2 = app.toggleRow i hi := by
  cases hglobal : key.isGlobal with
  -- a global key leaves the pane of the tree alone
  | true =>
    rcases app.handleKey_of_isGlobal hglobal tools now with heq | heq | heq
    all_goals
      rw [heq]
      exact .inl rfl
  | false =>
    cases hfocus : app.focus with
    | rule =>
      rw [app.handleKey_of_not_isGlobal hglobal]
      exact .inl (treePane_handlePaneKey_of_rule hfocus key)
    | tree =>
      cases hselected : app.treePane.selectedIndex app.model with
      | none =>
        rw [app.handleKey_of_not_isGlobal hglobal]
        exact .inl (treePane_handlePaneKey_of_none hfocus hselected key)
      | some i =>
        have hi := TreePane.lt_of_selectedIndex hselected
        rw [h.handleKey_eq_keyAtRow hfocus hselected hi tools now hglobal]
        rcases app.keyAtRow_cases hi key.code with hpane | hselect | ⟨htoggle, heq⟩
        · exact .inl hpane
        · exact .inr (.inl hselect)
        · exact .inr (.inr ⟨i, hi, rfl, htoggle, heq⟩)

/-- So does any action; only keys choose rows. -/
theorem act_cases (action : Action) :
    (app.act action).treePane = app.treePane ∨
      (∃ tools now key, action = .key tools now key) ∧
        ((∃ i hi, app.act action = app.selectRow i hi) ∨
          ∃ i hi, app.treePane.selectedIndex app.model = some i ∧
            app.model.rows[i].toggle.isToggleable = true ∧
            app.act action = app.toggleRow i hi) := by
  -- only a key can move the selection
  cases action with
  | key tools now key =>
    rcases h.handleKey_cases tools now key with hpane | hchosen
    · exact .inl hpane
    · exact .inr ⟨⟨tools, now, key, rfl⟩, hchosen⟩
  | tick tools now | recompute tools now | ruleChanged rule now | editSource source now =>
    exact .inl rfl

/-- **Step.** An action leaves the selection alone, or it is a key after which the selected label is
shown at the remembered index. -/
theorem treePane_act (action : Action) :
    (app.act action).treePane = app.treePane ∨
      (∃ tools now key, action = .key tools now key) ∧
        ∃ key, (app.act action).treePane.selected = some key ∧
          (app.act action).model.rowIndex key = some (app.act action).treePane.lastIndex := by
  rcases h.act_cases action with hpane | ⟨hkey, ⟨i, hi, heq⟩ | ⟨i, hi, -, htoggle, heq⟩⟩
  · exact .inl hpane
  · rw [heq]
    exact .inr ⟨hkey, _, rfl, h.rowIndex_getElem hi⟩
  · rw [heq]
    exact .inr ⟨hkey, _, rfl, h.fresh.rowIndex_toggle h.tree hi htoggle⟩

end Sound

/-! ### The remembered index over a run -/

/-- A run with one more action is that action after the run. -/
theorem run_concat (app : App) (actions : List Action) (action : Action) :
    app.run (actions ++ [action]) = (app.run actions).act action :=
  List.foldl_append

/-- `press` is the last key of a run that chose the label `key`: right after it the label is shown
at the index that the selection remembers, and since then the selection has been left alone. -/
structure ChosenBy (app : App) (actions : List Action) (key : LabelKey) (before : List Action)
    (press : Action) (after : List Action) : Prop where
  run_eq : actions = before ++ press :: after
  isKey : ∃ tools now pressed, press = .key tools now pressed
  rowIndex_eq : (app.run (before ++ [press])).model.rowIndex key =
    some (app.run actions).treePane.lastIndex
  kept : ∀ later, later <+: after →
    (app.run (before ++ press :: later)).treePane = (app.run actions).treePane

/-- **Run.** A selected label was chosen by some key, and the selection left alone since then. -/
theorem exists_chosenBy {app : App} (h : app.Sound) (hnone : app.treePane.selected = none)
    {actions : List Action} (hactions : ∀ action ∈ actions, action.WellFormed) {key : LabelKey}
    (hkey : (app.run actions).treePane.selected = some key) :
    ∃ before press after, app.ChosenBy actions key before press after := by
  induction actions using List.reverseRecOn with
  | nil => exact absurd (hnone.symm.trans hkey) (by simp)
  | append_singleton actions action ih =>
    have hearlier : ∀ other ∈ actions, other.WellFormed := fun other hother =>
      hactions other (List.mem_append_left _ hother)
    rcases (h.run hearlier).treePane_act action with hpane | ⟨hpress, chosen, hchosen, hindex⟩
    · -- The last action left the selection alone, so it was chosen before.
      rw [← run_concat] at hpane
      rw [hpane] at hkey
      obtain ⟨before, press, after, hsince⟩ := ih hearlier hkey
      refine ⟨before, press, after ++ [action], ?_, hsince.isKey, ?_, fun later hprefix => ?_⟩
      · rw [hsince.run_eq, List.append_assoc, List.cons_append]
      · rw [hpane]
        exact hsince.rowIndex_eq
      · rw [hpane]
        rcases List.prefix_concat_iff.1 hprefix with rfl | hprefix
        · rw [← List.cons_append, ← List.append_assoc, ← hsince.run_eq, hpane]
        · exact hsince.kept later hprefix
    · rw [← run_concat] at hchosen hindex
      have hsame : chosen = key := Option.some.inj (hchosen.symm.trans hkey)
      subst hsame
      refine ⟨actions, action, [], rfl, hpress, hindex, fun later hprefix => ?_⟩
      rw [List.prefix_nil.1 hprefix]

/-! ### A step that replaces the rows -/

namespace Sound

variable {app : App} {action : Action} {key : LabelKey} {i : Nat}

/-- While its row is shown, a step that does not just select keeps the selected label; if the step
chooses a row, it is the row of this label, and it is shown afterwards. -/
theorem selected_act (h : app.Sound) (hkey : app.treePane.selected = some key)
    (hshown : app.model.rowIndex key = some i)
    (hstep : (app.act action).model ≠ app.model ∨ (app.act action).treePane = app.treePane) :
    (app.act action).treePane = app.treePane ∨
      (app.act action).treePane.selected = some key ∧
        (app.act action).model.rowIndex key = some i := by
  rcases h.act_cases action with hpane | ⟨-, ⟨j, hj, heq⟩ | ⟨j, hj, hselected, htoggle, heq⟩⟩
  · exact .inl hpane
  · -- Selecting a row is no change of the model.
    rcases hstep with hchanged | hpane
    · rw [heq] at hchanged
      exact absurd rfl hchanged
    · exact .inl hpane
  · have hindex := TreePane.selectedIndex_of_rowIndex hkey hshown
    have hij : i = j := Option.some.inj (hindex.symm.trans hselected)
    subst hij
    have hrow : app.model.rows[i].key = key := by
      obtain ⟨_, hfound, -⟩ := List.findIdx?_eq_some_iff_getElem.1 hshown
      simpa using hfound
    rw [heq]
    refine .inr ⟨congrArg some hrow, ?_⟩
    have htoggled : (app.toggleRow i hj).model.rowIndex app.model.rows[i].key = some i :=
      h.fresh.rowIndex_toggle h.tree hj htoggle
    rwa [hrow] at htoggled

/-- **Stays.** A selected label that is shown before and after such a step is selected after it. -/
theorem selected_of_shown (h : app.Sound) (hkey : app.treePane.selected = some key)
    (hshown : app.model.rowIndex key = some i)
    (hstep : (app.act action).model ≠ app.model ∨ (app.act action).treePane = app.treePane)
    {j : Nat} (hafter : (app.act action).model.rowIndex key = some j) :
    (app.act action).treePane.selected = some key ∧
      (app.act action).treePane.selectedIndex (app.act action).model = some j := by
  have hselected : (app.act action).treePane.selected = some key := by
    rcases h.selected_act hkey hshown hstep with hpane | ⟨hselected, -⟩
    · rw [hpane]
      exact hkey
    · exact hselected
  exact ⟨hselected, TreePane.selectedIndex_of_rowIndex hselected hafter⟩

/-- **Falls back.** When the label is gone, the row at the remembered index takes its place. -/
theorem selectedIndex_of_lost (h : app.Sound) (hkey : app.treePane.selected = some key)
    (hshown : app.model.rowIndex key = some i)
    (hstep : (app.act action).model ≠ app.model ∨ (app.act action).treePane = app.treePane)
    (hlost : (app.act action).model.rowIndex key = none)
    (hrows : 0 < (app.act action).model.rows.length) :
    (app.act action).treePane.selectedIndex (app.act action).model =
      some (min app.treePane.lastIndex ((app.act action).model.rows.length - 1)) := by
  rcases h.selected_act hkey hshown hstep with hpane | ⟨-, hstill⟩
  · rw [hpane]
    refine TreePane.selectedIndex_of_gone ?_ hrows
    rw [hkey]
    exact hlost
  · exact absurd (hlost.symm.trans hstill) (by simp)

end Sound

/-- **What becomes of the selection.** In every run of the workbench let a label be selected and
shown, at row `i`, and let a step do more than select a row: all that replaces the rows changes the
model or leaves the pane as it is.  If the label is shown afterwards, it is still selected.  If it
is gone and there are rows, the selection falls back to the remembered index, bounded by the last
row; it is the index at which the row of the label stood right after the last key press that chose
it, and the selection has been left alone since.  So it falls back to the row at the same position
just if the row has not moved since that key press, or both places lie behind the last row. -/
theorem selection_after_rebuild {session : Session} (wf : WellFormedTree session.tree)
    (settings : DisplayRules) (title : String) {actions : List Action}
    (hactions : ∀ action ∈ actions, action.WellFormed) (action : Action) :
    let start := ofModel (.ofSession session settings) title
    let app := start.run actions
    let next := app.act action
    let remembered := app.treePane.lastIndex
    let last := next.model.rows.length - 1
    ∀ key i, app.treePane.selected = some key → app.model.rowIndex key = some i →
      (next.model ≠ app.model ∨ next.treePane = app.treePane) →
      (∀ j, next.model.rowIndex key = some j →
        next.treePane.selected = some key ∧ next.treePane.selectedIndex next.model = some j) ∧
      (next.model.rowIndex key = none → 0 < next.model.rows.length →
        next.treePane.selectedIndex next.model = some (min remembered last) ∧
        (next.treePane.selectedIndex next.model = some (min i last) ↔
          remembered = i ∨ (last ≤ remembered ∧ last ≤ i))) ∧
      ∃ before press after, start.ChosenBy actions key before press after := by
  intro start app next remembered last key i hkey hshown hstep
  have h : app.Sound := run_sound wf settings title hactions
  refine ⟨fun j hj => h.selected_of_shown hkey hshown hstep hj, fun hlost hrows => ?_,
    exists_chosenBy (sound_ofModel session wf settings title) rfl hactions hkey⟩
  -- the key is lost, so the remembered index counts, moved into the list if it is past it
  have hindex : next.treePane.selectedIndex next.model = some (min remembered last) :=
    h.selectedIndex_of_lost hkey hshown hstep hlost hrows
  refine ⟨hindex, ?_⟩
  rw [hindex, Option.some_inj]
  omega

/-- The numbered tree with its second row selected. -/
def secondRowApp : App :=
  (ofModel (.ofSession (.start "" "" .standard) { DisplayRules.standard with openDepth := 1 })
    "Ast").run (secondRowLost.take 2)

/-- When a tree without this row is read, the second row takes its place. -/
theorem selection_after_rebuild_lost :
    (∀ action ∈ secondRowLost.take 2, action.WellFormed) ∧
      secondRowApp.treePane.selected = some ⟨.group, [.field "0"]⟩ ∧
      secondRowApp.model.rowIndex ⟨.group, [.field "0"]⟩ = some 1 ∧
      secondRowLostApp = secondRowApp.act (.recompute (reading sampleTree) 0) ∧
      secondRowLostApp.model ≠ secondRowApp.model ∧
      secondRowLostApp.model.rowIndex ⟨.group, [.field "0"]⟩ = none ∧
      secondRowLostApp.treePane.selectedIndex secondRowLostApp.model = some 1 := by
  have hnumbered := reading_wellFormed numberedTree_wellFormed
  have hactions : ∀ action ∈ secondRowLost.take 2, action.WellFormed :=
    List.forall_mem_cons.2 ⟨hnumbered, List.forall_mem_singleton.2 hnumbered⟩
  have hkey : secondRowApp.treePane.selected = some ⟨.group, [.field "0"]⟩ := by cbv
  have hshown : secondRowApp.model.rowIndex ⟨.group, [.field "0"]⟩ = some 1 := by cbv
  have hlost : secondRowLostApp.model.rowIndex ⟨.group, [.field "0"]⟩ = none := by cbv
  have hlength : secondRowLostApp.model.rows.length = 4 := by cbv
  have hrows : 0 < secondRowLostApp.model.rows.length := by rw [hlength]; decide
  have hchanged : secondRowLostApp.model ≠ secondRowApp.model := by
    intro heq
    rw [heq] at hlost
    exact absurd (hshown.symm.trans hlost) (by simp)
  -- the row selected is lost with the new tree, and the row at its index is another one
  obtain ⟨-, hfalls, -⟩ := @selection_after_rebuild (.start "" "" .standard)
    (wellFormedTree_start _ _ _) { DisplayRules.standard with openDepth := 1 } "Ast" _ hactions
    (.recompute (reading sampleTree) 0) ⟨.group, [.field "0"]⟩ 1 hkey hshown (.inl hchanged)
  have hindex : secondRowLostApp.treePane.selectedIndex secondRowLostApp.model =
      some (min secondRowApp.treePane.lastIndex (secondRowLostApp.model.rows.length - 1)) :=
    (hfalls hlost hrows).1
  have hremembered : secondRowApp.treePane.lastIndex = 1 := by cbv
  rw [hremembered, hlength] at hindex
  exact ⟨hactions, hkey, hshown, rfl, hchanged, hlost, hindex⟩

/-! ### A row that moves before it vanishes -/

/-- Two fields, the first of them shown only among all fields. -/
def plainBlock : Value := .map [("n", .int 1), ("type", .str "Block")]

/-- The same with a node in front of them. -/
def leafAndBlock : Value :=
  .map [("leaf", .map [("type", .str "Leaf")]), ("n", .int 1), ("type", .str "Block")]

/-- Among all fields the second row is selected; then the tree with one node more is read. -/
def movedDown : List Action :=
  [.recompute (reading plainBlock) 0, .key (reading plainBlock) 0 (KeyCode.char 'v').press,
    .key (reading plainBlock) 0 KeyCode.down.press, .recompute (reading leafAndBlock) 0]

def movedDownApp : App :=
  (ofModel (.ofSession (.start "" "" .standard) { DisplayRules.standard with openDepth := 9 })
    "Ast").run movedDown

/-- The fields are filtered again. -/
def filteredApp : App :=
  movedDownApp.act (.key (reading leafAndBlock) 0 (KeyCode.char 'v').press)

/-- The selected label was chosen at row 1 and has moved to row 4.  Once it is gone, of three rows
not the last one is selected, which is the nearest to where it stood, but the one at row 1. -/
theorem selection_falls_behind :
    movedDownApp.treePane.selected = some ⟨.group, [.field "n"]⟩ ∧
      movedDownApp.model.rowIndex ⟨.group, [.field "n"]⟩ = some 4 ∧
      filteredApp.model.rowIndex ⟨.group, [.field "n"]⟩ = none ∧
      filteredApp.model.rows.length = 3 ∧
      filteredApp.treePane.selectedIndex filteredApp.model = some 1 ∧
      filteredApp.treePane.selectedIndex filteredApp.model ≠
        some (min 4 (filteredApp.model.rows.length - 1)) := by
  have hlength : filteredApp.model.rows.length = 3 := by cbv
  have hindex : filteredApp.treePane.selectedIndex filteredApp.model = some 1 := by cbv
  refine ⟨by cbv, by cbv, by cbv, hlength, hindex, ?_⟩
  rw [hindex, hlength]
  decide

end App

end TreeOutline
