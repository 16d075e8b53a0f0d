import TreeOutline.Proofs.Outline.Toggle
import TreeOutline.Proofs.Workbench.Reachable

namespace TreeOutline

/-!
# The selection in the tree

The selection is remembered by a key, and found among the rows by it.

* `RowToggled`, `Fresh.rowToggled` — the rows after one of them was toggled.
* `TreePane.selectedIndex_of_rowIndex`, `selectedIndex_of_gone` — where the selection is.
* `App.selectRow`, `App.toggleRow` — the application with a row selected, and with one toggled.
* `Sound.selectedIndex_selectRow`, `Sound.selectedIndex_toggleRow` — the selection is at that row.
* `App.keyAtRow`, `Sound.handleKey_eq_keyAtRow` — every key of the tree pane, by the row it is at.
* `MovedTo`, `Sound.movedTo_up`, `movedTo_down`, `movedTo_home`, `movedTo_end` — the keys that move
  the selection and change nothing else.
* `Sound.movedTo_home_downs` — from the top, Down passes every row.
* `keys_move_selection` — **the whole of it, for every run of the workbench.**
-/

/-! ### Rows after a toggle -/

/-- `toggled` is `rows` after the toggle of `row` at index `i`: nothing above it changes, it changes
its toggle only, and below it a block of deeper rows goes or comes. -/
structure RowToggled (rows toggled : List Row) (i : Nat) (row : Row) : Prop where
  above : toggled.take i = rows.take i
  itself : toggled[i]? = some row.flipped
  closing : row.toggle = .opened →
    toggled.drop (i + 1) = (rows.drop (i + 1)).dropWhile fun r => decide (row.level < r.level)
  opening : row.toggle = .closed →
    ∃ block, toggled.drop (i + 1) = block ++ rows.drop (i + 1) ∧
      ∀ r ∈ block, row.level < r.level

namespace Model

variable {m : Model}

/-- The rows after a toggle that succeeds are those of the flags that it leaves. -/
theorem rows_toggle {key : LabelKey} (h : (m.toggle key).1 = true) :
    (m.toggle key).2.rows =
      labelRows ((m.store.toggle key).2.flags m.rules) (rootLabels m.rules m.session.tree) 0 := by
  unfold Model.toggle at h ⊢
  rcases htoggle : m.store.toggle key with ⟨_ | isOpen, store⟩
  · rw [htoggle] at h
    exact nomatch h
  · exact rows_renderRoot m.rules m.session.tree store

/-- **One toggle.** In a model that is not stale, toggling a row opens or closes this row. -/
theorem Fresh.rowToggled (h : m.Fresh) (wf : WellFormedTree m.session.tree) {i : Nat}
    (hi : i < m.rows.length) (htoggle : m.rows[i].toggle.isToggleable = true) :
    RowToggled m.rows (m.toggle m.rows[i].key).2.rows i m.rows[i] := by
  have hmem : m.rows[i] ∈ m.rows := List.getElem_mem hi
  have hshows := h.toggle_eq hmem htoggle
  have hshown : m.rows[i].key ∈
      (viewRoot m.rules (m.store.flags m.rules) m.session.tree).toggleKeys :=
    h.mem_toggleKeys_iff.2 ⟨_, hmem, rfl, htoggle⟩
  have hrows := rows_toggle (h.toggle_fst_iff.2 ⟨_, hmem, rfl, htoggle⟩)
  have hnodup : (m.rows.map Row.key).Nodup := h.rowKeys_nodup wf
  -- an open row folds its block in, a closed one unfolds it
  cases hflag : m.store.flags m.rules m.rows[i].key with
  | true =>
    obtain ⟨row, block, hkey, hunfolds⟩ := h.settled.unfolds_of_opened wf hshown hflag
    rw [← h.rows_eq, ← hrows] at hunfolds
    obtain ⟨htake, hget, hdrop⟩ := hunfolds.at_index_opened hnodup hi hkey.symm
    refine ⟨htake, hget, fun _ => hdrop, fun hclosed => ?_⟩
    rw [hshows, hflag] at hclosed
    exact nomatch hclosed
  | false =>
    obtain ⟨row, block, hkey, hunfolds⟩ := h.settled.unfolds_of_closed wf hshown hflag
    rw [← h.rows_eq, ← hrows] at hunfolds
    obtain ⟨htake, hget, hdrop, hlevel⟩ := hunfolds.at_index_closed hnodup hi hkey.symm
    refine ⟨htake, hget, fun hopened => ?_, fun _ => ⟨block, hdrop, fun r hr => ?_⟩⟩
    · rw [hshows, hflag] at hopened
      exact nomatch hopened
    · rw [hlevel]
      exact (hunfolds.deeper r hr).1

/-- After a toggle the row is found at the same index. -/
theorem Fresh.rowIndex_toggle (h : m.Fresh) (wf : WellFormedTree m.session.tree) {i : Nat}
    (hi : i < m.rows.length) (htoggle : m.rows[i].toggle.isToggleable = true) :
    (m.toggle m.rows[i].key).2.rowIndex m.rows[i].key = some i := by
  have hfresh : (m.toggle m.rows[i].key).2.Fresh := h.toggle m.rows[i].key
  have hnodup : ((m.toggle m.rows[i].key).2.rows.map Row.key).Nodup :=
    hfresh.rowKeys_nodup (by rwa [toggle_session])
  obtain ⟨hlt, hrow⟩ := List.getElem?_eq_some_iff.1 (h.rowToggled wf hi htoggle).itself
  have hindex := rowIndex_getElem hnodup hlt
  rwa [hrow] at hindex

end Model

/-! ### Where the selection is -/

namespace TreePane

variable {pane : TreePane} {m : Model}

/-- A selected label that is shown is where its row is. -/
theorem selectedIndex_of_rowIndex {key : LabelKey} (hkey : pane.selected = some key) {i : Nat}
    (hi : m.rowIndex key = some i) : pane.selectedIndex m = some i := by
  -- a key that is found is in a list that is not empty
  have hne : m.rows.isEmpty = false := by
    rw [List.isEmpty_eq_false_iff]
    intro hnil
    rw [Model.rowIndex, hnil] at hi
    exact nomatch hi
  unfold selectedIndex
  rw [hne, hkey, Option.bind_some, hi]
  rfl

/-- A selected label that is not shown gives way to the row at the remembered index, or the last. -/
theorem selectedIndex_of_gone (hgone : pane.selected.bind m.rowIndex = none)
    (hrows : 0 < m.rows.length) :
    pane.selectedIndex m = some (min pane.lastIndex (m.rows.length - 1)) := by
  have hne : m.rows.isEmpty = false :=
    List.isEmpty_eq_false_iff.2 (List.ne_nil_of_length_pos hrows)
  unfold selectedIndex
  rw [hne, hgone]
  rfl

/-- With rows there is a selection, and it is one of them. -/
theorem exists_selectedIndex (pane : TreePane) (hrows : 0 < m.rows.length) :
    ∃ i, pane.selectedIndex m = some i ∧ i < m.rows.length := by
  cases hfound : pane.selected.bind m.rowIndex with
  | none => exact ⟨_, selectedIndex_of_gone hfound hrows, by omega⟩
  | some i =>
    obtain ⟨key, hkey, hi⟩ := Option.bind_eq_some_iff.1 hfound
    obtain ⟨hlt, -⟩ := List.findIdx?_eq_some_iff_getElem.1 hi
    exact ⟨i, selectedIndex_of_rowIndex hkey hi, hlt⟩

/-- The selected index is that of a row. -/
theorem lt_of_selectedIndex {i : Nat} (h : pane.selectedIndex m = some i) : i < m.rows.length := by
  have hrows : 0 < m.rows.length := by
    by_contra hnone
    unfold selectedIndex at h
    rw [List.eq_nil_of_length_eq_zero (Nat.eq_zero_of_not_pos hnone)] at h
    exact nomatch h
  obtain ⟨j, hj, hlt⟩ := pane.exists_selectedIndex hrows
  rw [h, Option.some_inj] at hj
  rwa [hj]

end TreePane

/-! ### What the keys do -/

/-- A key without modifiers. -/
def KeyCode.press (code : KeyCode) : KeyPress := ⟨code, false, false, false⟩

/-- The keys that toggle a row: Left one that is open, Right one that is closed, Enter both. -/
def KeyCode.Toggles : KeyCode → Toggle → Prop
  | .left, toggle => toggle = .opened
  | .right, toggle => toggle = .closed
  | .enter, toggle => toggle.isToggleable = true
  | _, _ => False

/-- Only a row that opens and closes is toggled. -/
theorem KeyCode.Toggles.isToggleable {code : KeyCode} {toggle : Toggle} (h : code.Toggles toggle) :
    toggle.isToggleable = true := by
  cases code with
  | left | right =>
    rw [show toggle = _ from h]
    rfl
  | enter => exact h
  | up | down | home | endOfLine | tab | escape | backspace | function n | char c => exact h.elim

namespace App

/-- The application with a row selected. -/
def selectRow (app : App) (i : Nat) (hi : i < app.model.rows.length) : App :=
  { app with treePane := ⟨some app.model.rows[i].key, i⟩ }

/-- The application with a row toggled and selected. -/
def toggleRow (app : App) (i : Nat) (hi : i < app.model.rows.length) : App :=
  { app.selectRow i hi with model := (app.model.toggle app.model.rows[i].key).2 }

/-- What a key does with the tree in focus and the selection at a row. -/
def keyAtRow (app : App) (i : Nat) (hi : i < app.model.rows.length) : KeyCode → Bool × App
  | .up =>
    if 0 < i then (true, app.selectRow (i - 1) ((Nat.sub_le i 1).trans_lt hi)) else (false, app)
  | .down =>
    if hnext : i + 1 < app.model.rows.length then (true, app.selectRow (i + 1) hnext)
    else (false, app)
  | .home => (true, app.selectRow 0 (Nat.zero_lt_of_lt hi))
  | .endOfLine => (true, app.selectRow (app.model.rows.length - 1) (Nat.sub_one_lt_of_lt hi))
  | .left =>
    if app.model.rows[i].toggle = .opened then (true, app.toggleRow i hi) else (false, app)
  | .right =>
    if app.model.rows[i].toggle = .closed then (true, app.toggleRow i hi) else (false, app)
  | .enter =>
    if app.model.rows[i].toggle.isToggleable then (true, app.toggleRow i hi) else (false, app)
  | .char 'v' => (true, { app with model := app.model.toggleVariant })
  | _ => (false, app)

namespace Sound

variable {app : App} {i : Nat}

/-- A row that was selected is selected at its index. -/
theorem selectedIndex_selectRow (h : app.Sound) (hi : i < app.model.rows.length) :
    (app.selectRow i hi).treePane.selectedIndex app.model = some i :=
  TreePane.selectedIndex_of_rowIndex rfl (h.rowIndex_getElem hi)

/-- A row that was toggled is selected at the index where it was. -/
theorem selectedIndex_toggleRow (h : app.Sound) (hi : i < app.model.rows.length)
    (htoggle : app.model.rows[i].toggle.isToggleable = true) :
    (app.toggleRow i hi).treePane.selectedIndex (app.toggleRow i hi).model = some i :=
  TreePane.selectedIndex_of_rowIndex rfl (h.fresh.rowIndex_toggle h.tree hi htoggle)

/-- Selecting a row by its index ends with this row selected. -/
theorem process_selectIndex (h : app.Sound) (hi : i < app.model.rows.length) :
    ({ app with treePane := (app.treePane.selectIndex i app.model).2 } : App).process
      (app.treePane.selectIndex i app.model).1 = (true, app.selectRow i hi) := by
  simp only [TreePane.selectIndex, List.getElem?_eq_getElem hi]
  show (true, ({ app with treePane := TreePane.select _ _ app.model } : App)) = _
  rw [TreePane.select, h.rowIndex_getElem hi]
  rfl

/-- Past the rows there is nothing to select. -/
theorem process_selectIndex_of_le (hi : app.model.rows.length ≤ i) :
    ({ app with treePane := (app.treePane.selectIndex i app.model).2 } : App).process
      (app.treePane.selectIndex i app.model).1 = (false, app) := by
  simp only [TreePane.selectIndex, List.getElem?_eq_none hi]
  rfl

/-- Toggling a row ends with this row selected. -/
theorem process_toggle (h : app.Sound) (hi : i < app.model.rows.length)
    (htoggle : app.model.rows[i].toggle.isToggleable = true) :
    app.process (.toggle app.model.rows[i].key) = (true, app.toggleRow i hi) := by
  have hchanged : (app.model.toggle app.model.rows[i].key).1 = true :=
    h.fresh.toggle_fst_iff.2 ⟨_, List.getElem_mem hi, rfl, htoggle⟩
  have hpane : app.treePane.select app.model.rows[i].key
      (app.model.toggle app.model.rows[i].key).2 = ⟨some app.model.rows[i].key, i⟩ := by
    rw [TreePane.select, h.fresh.rowIndex_toggle h.tree hi htoggle]
    rfl
  -- the toggled key is selected, and its row has kept its index
  calc app.process (.toggle app.model.rows[i].key)
      = ((app.model.toggle app.model.rows[i].key).1,
          { app with
            model := (app.model.toggle app.model.rows[i].key).2
            treePane := app.treePane.select app.model.rows[i].key
              (app.model.toggle app.model.rows[i].key).2 }) := rfl
    _ = (true, app.toggleRow i hi) := by
        rw [hchanged, hpane]
        rfl

/-- **Every key of the tree pane**, by what it leaves behind. -/
theorem handleKey_eq_keyAtRow (h : app.Sound) (hfocus : app.focus = .tree)
    (hselected : app.treePane.selectedIndex app.model = some i) (hi : i < app.model.rows.length)
    (tools : Tools) (now : Time) {key : KeyPress} (hlocal : key.isGlobal = false) :
    app.handleKey tools now key = app.keyAtRow i hi key.code := by
  rw [app.handleKey_of_not_isGlobal hlocal, handlePaneKey_of_tree hfocus]
  unfold TreePane.handleKey keyAtRow
  simp only [hselected, List.getElem?_eq_getElem hi]
  -- one key after the other; the tests are the same on both sides
  cases key.code with
  | up =>
    by_cases hfirst : 0 < i
    · simp only [if_pos hfirst]
      exact h.process_selectIndex _
    · simp only [if_neg hfirst]
      rfl
  | down =>
    by_cases hnext : i + 1 < app.model.rows.length
    · simp only [dif_pos hnext]
      exact h.process_selectIndex hnext
    · simp only [dif_neg hnext]
      exact process_selectIndex_of_le (Nat.le_of_not_lt hnext)
  | home | endOfLine => exact h.process_selectIndex _
  | left =>
    by_cases hopened : app.model.rows[i].toggle = .opened
    · simp only [if_pos hopened]
      exact h.process_toggle hi (by rw [hopened]; rfl)
    · simp only [if_neg hopened]
      rfl
  | right =>
    by_cases hclosed : app.model.rows[i].toggle = .closed
    · simp only [if_pos hclosed]
      exact h.process_toggle hi (by rw [hclosed]; rfl)
    · simp only [if_neg hclosed]
      rfl
  | enter =>
    by_cases htoggle : app.model.rows[i].toggle.isToggleable = true
    · simp only [if_pos htoggle]
      exact h.process_toggle hi htoggle
    · simp only [if_neg htoggle]
      rfl
  | char c =>
    by_cases hv : c = 'v'
    · subst hv
      rfl
    · simp [hv, process]
  | tab | escape | backspace | function n => rfl

end Sound

/-! ### Moves -/

/-- Another application differs from this one in the selection at most, which is at row `i`. -/
structure MovedTo (app other : App) (i : Nat) : Prop where
  others : other = { app with treePane := other.treePane }
  index : other.treePane.selectedIndex app.model = some i

namespace MovedTo

variable {app other third : App} {i j : Nat}

/-- Moving the selection keeps the model. -/
theorem model_eq (h : app.MovedTo other i) : other.model = app.model := by rw [h.others]

/-- Moving the selection keeps the focus. -/
theorem focus_eq (h : app.MovedTo other i) : other.focus = app.focus := by rw [h.others]

/-- Moving the selection keeps the application sound. -/
theorem sound (h : app.MovedTo other i) (hsound : app.Sound) : other.Sound :=
  ⟨h.model_eq ▸ hsound.fresh, h.model_eq ▸ hsound.tree⟩

/-- Of two moves the second one counts. -/
theorem trans (h : app.MovedTo other i) (h' : other.MovedTo third j) : app.MovedTo third j where
  others := by
    rw [h'.others, h.others]
  index := h.model_eq ▸ h'.index

end MovedTo

namespace Sound

variable {app : App} {i : Nat} (h : app.Sound) (hfocus : app.focus = .tree)
  (hselected : app.treePane.selectedIndex app.model = some i) (tools : Tools) (now : Time)
include h

/-- Selecting a row moves the selection there. -/
theorem movedTo_selectRow (hi : i < app.model.rows.length) : app.MovedTo (app.selectRow i hi) i :=
  ⟨rfl, h.selectedIndex_selectRow hi⟩

include hfocus hselected

/-- **Up** goes to the row above, as long as there is one. -/
theorem movedTo_up : app.MovedTo (app.handleKey tools now KeyCode.up.press).2 (i - 1) := by
  have hi := TreePane.lt_of_selectedIndex hselected
  rw [h.handleKey_eq_keyAtRow hfocus hselected hi tools now rfl]
  dsimp only [keyAtRow, KeyCode.press]
  -- the first row has none above it and stays selected
  by_cases hfirst : 0 < i
  · rw [if_pos hfirst]
    exact h.movedTo_selectRow _
  · rw [if_neg hfirst, Nat.sub_eq_zero_of_le (by omega)]
    exact ⟨rfl, by rw [hselected, Nat.eq_zero_of_not_pos hfirst]⟩

/-- **Down** goes to the row below, as long as there is one. -/
theorem movedTo_down : app.MovedTo (app.handleKey tools now KeyCode.down.press).2
    (min (i + 1) (app.model.rows.length - 1)) := by
  have hi := TreePane.lt_of_selectedIndex hselected
  rw [h.handleKey_eq_keyAtRow hfocus hselected hi tools now rfl]
  dsimp only [keyAtRow, KeyCode.press]
  by_cases hnext : i + 1 < app.model.rows.length
  · rw [dif_pos hnext, Nat.min_eq_left (by omega)]
    exact h.movedTo_selectRow hnext
  · -- the last row has none below it and stays selected
    have hlast : min (i + 1) (app.model.rows.length - 1) = i := by omega
    rw [dif_neg hnext, hlast]
    exact ⟨rfl, hselected⟩

/-- **Home** goes to the first row. -/
theorem movedTo_home : app.MovedTo (app.handleKey tools now KeyCode.home.press).2 0 := by
  have hi := TreePane.lt_of_selectedIndex hselected
  rw [h.handleKey_eq_keyAtRow hfocus hselected hi tools now rfl]
  exact h.movedTo_selectRow _

/-- **End** goes to the last row. -/
theorem movedTo_end : app.MovedTo (app.handleKey tools now KeyCode.endOfLine.press).2
    (app.model.rows.length - 1) := by
  have hi := TreePane.lt_of_selectedIndex hselected
  rw [h.handleKey_eq_keyAtRow hfocus hselected hi tools now rfl]
  exact h.movedTo_selectRow _

/-- Down as often as there are rows below goes from row to row. -/
theorem movedTo_downs {k : Nat} (hk : i + k < app.model.rows.length) :
    app.MovedTo (app.run (List.replicate k (.key tools now KeyCode.down.press))) (i + k) := by
  induction k generalizing app i with
  | zero => exact ⟨rfl, hselected⟩
  | succ k ih =>
    have hfirst := h.movedTo_down hfocus hselected tools now
    rw [Nat.min_eq_left (by omega)] at hfirst
    -- a move changes neither rows nor focus, so the next one is as the first
    have hrest := ih (hfirst.sound h) (hfirst.focus_eq.trans hfocus)
      (hfirst.model_eq ▸ hfirst.index) (by rw [hfirst.model_eq]; omega)
    rw [show i + (k + 1) = i + 1 + k by omega]
    exact hfirst.trans hrest

/-- From the first row Down reaches every row in its turn. -/
theorem movedTo_home_downs {k : Nat} (hk : k < app.model.rows.length) :
    app.MovedTo (app.run (.key tools now KeyCode.home.press ::
      List.replicate k (.key tools now KeyCode.down.press))) k := by
  have hhome := h.movedTo_home hfocus hselected tools now
  have hdowns := (hhome.sound h).movedTo_downs (hhome.focus_eq.trans hfocus)
    (hhome.model_eq ▸ hhome.index) tools now (k := k) (by rw [hhome.model_eq]; omega)
  rw [Nat.zero_add] at hdowns
  exact hhome.trans hdowns

/-- **Left, Right and Enter** toggle the selected row, and it stays selected. -/
theorem handleKey_toggles (hi : i < app.model.rows.length) {code : KeyCode}
    (hcode : code.Toggles app.model.rows[i].toggle) :
    app.handleKey tools now code.press = (true, app.toggleRow i hi) := by
  cases code with
  | left =>
    rw [h.handleKey_eq_keyAtRow hfocus hselected hi tools now rfl]
    exact if_pos hcode
  | right =>
    rw [h.handleKey_eq_keyAtRow hfocus hselected hi tools now rfl]
    exact if_pos hcode
  | enter =>
    rw [h.handleKey_eq_keyAtRow hfocus hselected hi tools now rfl]
    exact if_pos hcode
  | up | down | home | endOfLine | tab | escape | backspace | function n | char c =>
    exact hcode.elim

end Sound

/-- **The keys reach every row, and a toggle keeps the selection.** In every run of the workbench
with the tree in focus and rows in it, one of the rows is selected, whether the label that was
selected is still shown or not.  Down, Up, Home and End go to the next row, the one before, the
first and the last, and change nothing else; so from the first row Down passes every row in its
turn.  Enter on a row with a toggle, Left on an open one and Right on a closed one toggle this row,
which stays where it is and is selected. -/
theorem keys_move_selection {session : Session} (wf : WellFormedTree session.tree)
    (settings : DisplayRules) (title : String) {actions : List Action}
    (hactions : ∀ action ∈ actions, action.WellFormed) (tools : Tools) (now : Time) :
    let app := (ofModel (.ofSession session settings) title).run actions
    let press (code : KeyCode) : App := (app.handleKey tools now code.press).2
    app.focus = .tree → 0 < app.model.rows.length → ∃ i, ∃ hi : i < app.model.rows.length,
      app.treePane.selectedIndex app.model = some i ∧
      app.MovedTo (press .down) (min (i + 1) (app.model.rows.length - 1)) ∧
      app.MovedTo (press .up) (i - 1) ∧
      app.MovedTo (press .home) 0 ∧
      app.MovedTo (press .endOfLine) (app.model.rows.length - 1) ∧
      (∀ k < app.model.rows.length,
        app.MovedTo (app.run (.key tools now KeyCode.home.press ::
          List.replicate k (.key tools now KeyCode.down.press))) k) ∧
      ∀ code : KeyCode, code.Toggles app.model.rows[i].toggle →
        RowToggled app.model.rows (press code).model.rows i app.model.rows[i] ∧
        (press code).treePane.selected = some app.model.rows[i].key ∧
        (press code).treePane.selectedIndex (press code).model = some i := by
  intro app press hfocus hrows
  have h : app.Sound := run_sound wf settings title hactions
  obtain ⟨i, hselected, hi⟩ := app.treePane.exists_selectedIndex hrows
  refine ⟨i, hi, hselected, h.movedTo_down hfocus hselected tools now,
    h.movedTo_up hfocus hselected tools now, h.movedTo_home hfocus hselected tools now,
    h.movedTo_end hfocus hselected tools now,
    fun k hk => h.movedTo_home_downs hfocus hselected tools now hk, fun code hcode => ?_⟩
  have htoggle : app.model.rows[i].toggle.isToggleable = true := hcode.isToggleable
  -- a key that fits the row toggles it and leaves it selected
  have hpress : press code = app.toggleRow i hi :=
    congrArg Prod.snd (h.handleKey_toggles hfocus hselected tools now hi hcode)
  rw [hpress]
  exact ⟨h.fresh.rowToggled h.tree hi htoggle, rfl, h.selectedIndex_toggleRow hi htoggle⟩

/-! ### A selected label that vanishes -/

/-- Tools that always read the same tree. -/
def reading (tree : Value) : Tools := ⟨fun _ => .ok tree, none⟩

/-- A parser that always gives a well-formed tree is well behaved. -/
theorem reading_wellFormed {tree : Value} (h : tree.WellFormed) : (reading tree).WellFormed := by
  intro source value hparse
  rw [← Except.ok.inj hparse]
  exact h

/-- The numbered tree is read and its second row selected; then a tree without this row is read. -/
def secondRowLost : List Action :=
  [.recompute (reading numberedTree) 0, .key (reading numberedTree) 0 KeyCode.down.press,
    .recompute (reading sampleTree) 0]

def secondRowLostApp : App :=
  (ofModel (.ofSession (.start "" "" .standard) { DisplayRules.standard with openDepth := 1 })
    "Ast").run secondRowLost

/-- The selected label is gone, and the second row is selected in its place.  From there Down goes
to the third row, and Left closes the second one and selects it by its own key. -/
theorem keys_move_selection_lost :
    secondRowLostApp.focus = .tree ∧ secondRowLostApp.model.rows.length = 4 ∧
      secondRowLostApp.treePane.selected = some ⟨.group, [.field "0"]⟩ ∧
      secondRowLostApp.treePane.selectedIndex secondRowLostApp.model = some 1 ∧
      secondRowLostApp.MovedTo
        (secondRowLostApp.handleKey (reading sampleTree) 0 KeyCode.down.press).2 2 ∧
      (secondRowLostApp.handleKey (reading sampleTree) 0 KeyCode.left.press).2.treePane.selected =
        some ⟨.group, [.field "body"]⟩ := by
  have hfocus : secondRowLostApp.focus = .tree := by cbv
  have hlength : secondRowLostApp.model.rows.length = 4 := by cbv
  have hrows : 0 < secondRowLostApp.model.rows.length := by rw [hlength]; decide
  have hselected : secondRowLostApp.treePane.selectedIndex secondRowLostApp.model = some 1 := by
    cbv
  have hrow : secondRowLostApp.model.rows[1]?.map (fun row => (row.key, row.toggle)) =
      some (⟨.group, [.field "body"]⟩, .opened) := by cbv
  have hnumbered := reading_wellFormed numberedTree_wellFormed
  have hsample : sampleTree.WellFormed := sampleTree_wellFormed sampleTree rfl
  have hactions : ∀ action ∈ secondRowLost, action.WellFormed :=
    List.forall_mem_cons.2 ⟨hnumbered, List.forall_mem_cons.2
      ⟨hnumbered, List.forall_mem_singleton.2 (reading_wellFormed hsample)⟩⟩
  -- the key selected has no row any more, so the keys go by the remembered index
  obtain ⟨i, hi, hindex, hdown, -, -, -, -, htoggle⟩ := @keys_move_selection
    (.start "" "" .standard) (wellFormedTree_start _ _ _)
    { DisplayRules.standard with openDepth := 1 } "Ast" secondRowLost hactions
    (reading sampleTree) 0 hfocus hrows
  have hsecond : i = 1 := Option.some.inj (hindex.symm.trans hselected)
  subst hsecond
  have hget : secondRowLostApp.model.rows[1]? = some secondRowLostApp.model.rows[1] :=
    List.getElem?_eq_getElem hi
  rw [hget, Option.map_some, Option.some_inj, Prod.mk.injEq] at hrow
  obtain ⟨-, hkey, -⟩ := htoggle .left hrow.2
  change secondRowLostApp.MovedTo _ (min (1 + 1) (secondRowLostApp.model.rows.length - 1)) at hdown
  rw [hlength] at hdown
  exact ⟨hfocus, hlength, by cbv, hselected, hdown, hkey.trans (congrArg some hrow.1)⟩

end App

end TreeOutline
