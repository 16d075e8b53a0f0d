import Mathlib.Logic.Function.Basic
import TreeOutline.Proofs.Outline.Keys

namespace TreeOutline

/-!
# Toggling one label

A toggle shows or hides the rows below its own label and touches no other row.

* `Toggle.flip`, `Row.flipped` — the row of the label itself.
* `Unfolds` — one list of rows arises from another by putting a block of deeper rows below one row.
* `labelRows_unfolds` — the rows of a forest with one label open unfold the rows with it closed.
* `Settled.unfolds_of_opened`, `Settled.unfolds_of_closed` — what toggling a label does to the rows
  that the next pass shows.
* `Settled.toggle_of_mem_block` — the rows that come are seeded anew;
  `Settled.renderRoot_toggle_toggle` — the way back restores rows and snapshot.
* `toggle_unfolds_rows` — the whole of it, by indexes.
-/

/-- The toggle after it was used. -/
def Toggle.flip : Toggle → Toggle
  | .static => .static
  | .opened => .closed
  | .closed => .opened

/-- The row with only its toggle flipped. -/
def Row.flipped (row : Row) : Row := { row with toggle := row.toggle.flip }

@[simp] theorem Row.flipped_flipped (row : Row) : row.flipped.flipped = row := by
  obtain ⟨key, level, label, detail, toggle, active, snippet, count⟩ := row
  cases toggle <;> rfl

/-! ### Unfolding a row -/

/-- `opened` is `closed` with a block of rows put below `row`: the block lies deeper than the row
and within its path, and what follows it does not. -/
structure Unfolds (row : Row) (block closed opened : List Row) : Prop where
  deeper : ∀ r ∈ block, row.level < r.level ∧ row.key.path <+: r.key.path
  split : ∃ before after, closed = before ++ row.flipped :: after ∧
    opened = before ++ row :: (block ++ after) ∧ ∀ r ∈ after.head?, r.level ≤ row.level

namespace Unfolds

variable {row : Row} {block closed opened : List Row}

/-- Rows above do not matter. -/
theorem append_left (h : Unfolds row block closed opened) (rows : List Row) :
    Unfolds row block (rows ++ closed) (rows ++ opened) := by
  obtain ⟨before, after, hclosed, hopened, hstop⟩ := h.split
  refine ⟨h.deeper, rows ++ before, after, ?_, ?_, hstop⟩
  · rw [hclosed, List.append_assoc]
  · rw [hopened, List.append_assoc]

/-- Rows after do not matter, provided they do not begin below the row. -/
theorem append_right (h : Unfolds row block closed opened) {rows : List Row}
    (hrows : ∀ r ∈ rows.head?, r.level ≤ row.level) :
    Unfolds row block (closed ++ rows) (opened ++ rows) := by
  obtain ⟨before, after, hclosed, hopened, hstop⟩ := h.split
  refine ⟨h.deeper, before, after ++ rows, ?_, ?_, ?_⟩
  · rw [hclosed, List.append_assoc, List.cons_append]
  · rw [hopened, List.append_assoc, List.cons_append, List.append_assoc]
  · -- the block ends where it did, or at the first of the new rows
    cases after with
    | nil => exact hrows
    | cons first rest => exact hstop

end Unfolds

/-! ### One flag of a forest -/

mutual

/-- The rows of a label depend on the flags of its own keys only. -/
theorem Label.rows_congr {flags other : Flags} {label : Label} (level : Nat)
    (h : ∀ key ∈ label.keys, other key = flags key) :
    label.rows other level = label.rows flags level := by
  match label with
  | .mk caption below =>
    rw [Label.keys] at h
    -- a label asks for its own flag, then its rows below for theirs
    have hcaption : caption.toggle other = caption.toggle flags := by
      unfold Caption.toggle
      rw [h caption.key List.mem_cons_self]
    rw [Label.rows, Label.rows, Caption.row, Caption.row, hcaption,
      labelRows_congr (level + 1) fun key hkey => h key (List.mem_cons_of_mem _ hkey)]

/-- The rows of a forest depend on the flags of its own keys only. -/
theorem labelRows_congr {flags other : Flags} {labels : List Label} (level : Nat)
    (h : ∀ key ∈ labelKeys labels, other key = flags key) :
    labelRows other labels level = labelRows flags labels level := by
  match labels with
  | [] => rfl
  | label :: rest =>
    rw [labelKeys] at h
    rw [labelRows, labelRows,
      Label.rows_congr level fun key hkey => h key (List.mem_append_left _ hkey),
      labelRows_congr level fun key hkey => h key (List.mem_append_right _ hkey)]

end

/-- The keys with a toggle among the rows of a forest are keys of the forest. -/
theorem mem_labelKeys_of_mem_toggleKeysOf {flags : Flags} {labels : List Label} {level : Nat}
    {key : LabelKey} (h : key ∈ toggleKeysOf (labelRows flags labels level)) :
    key ∈ labelKeys labels := by
  obtain ⟨row, hrow, rfl, -⟩ := mem_toggleKeysOf.1 h
  exact key_mem_of_mem_labelRows hrow

/-- The keys with a toggle among the rows of a label: its own, and while it is open those below. -/
theorem mem_toggleKeysOf_rows {flags : Flags} {caption : Caption} {below : List Label}
    {level : Nat} {key : LabelKey} :
    key ∈ toggleKeysOf ((Label.mk caption below).rows flags level) ↔
      (caption.opens = true ∧ key = caption.key) ∨
        ((caption.toggle flags).isOpen = true ∧
          key ∈ toggleKeysOf (labelRows flags below (level + 1))) := by
  rw [Label.rows, toggleKeysOf_cons, List.mem_append, Caption.row, Caption.isToggleable_toggle]
  -- the label's own key if it can be opened, those below only if it is open
  refine or_congr ?_ ?_
  · by_cases hopens : caption.opens = true
    · rw [if_pos hopens, List.mem_singleton, and_iff_right hopens]
    · rw [if_neg hopens]
      exact iff_of_false List.not_mem_nil fun h => hopens h.1
  · by_cases hisOpen : (caption.toggle flags).isOpen = true
    · rw [if_pos hisOpen, and_iff_right hisOpen]
    · rw [if_neg hisOpen]
      exact iff_of_false List.not_mem_nil fun h => hisOpen h.1

/-- A label that can be opened unfolds at its own key: all rows below it are the block. -/
theorem Label.rows_unfolds_self {flags : Flags} {caption : Caption} {below : List Label}
    (level : Nat) (hopens : caption.opens = true) (hopen : flags caption.key = true)
    (hnested : (Label.mk caption below).Nested) :
    Unfolds (caption.row flags level) (labelRows flags below (level + 1))
      ((Label.mk caption below).rows (Function.update flags caption.key false) level)
      ((Label.mk caption below).rows flags level) := by
  have htoggle : caption.toggle flags = .opened := by
    rw [Caption.toggle, if_pos hopens, hopen]
    rfl
  have htoggle' : caption.toggle (Function.update flags caption.key false) = .closed := by
    rw [Caption.toggle, if_pos hopens, Function.update_self]
    rfl
  refine ⟨fun r hr => ?_, [], [], ?_, ?_, ?_⟩
  · -- The block is the forest below the label: one level deeper, and nested in its path.
    have hlevel : level + 1 ≤ r.level := level_le_of_mem_labelRows hr
    exact ⟨hlevel, hnested.1 r.key (key_mem_of_mem_labelRows hr)⟩
  · rw [Label.rows, Caption.row, htoggle', Row.flipped, Caption.row, htoggle]
    rfl
  · rw [Label.rows, htoggle, List.append_nil]
    rfl
  · exact fun r hr => absurd hr (by simp)

mutual

/-- A label with distinct keys unfolds at the key that is opened. -/
theorem Label.rows_unfolds {flags : Flags} {key : LabelKey} {label : Label} {level : Nat}
    (hopen : flags key = true) (hnodup : label.keys.Nodup) (hnested : label.Nested)
    (hshown : key ∈ toggleKeysOf (label.rows flags level)) :
    ∃ row block, row.key = key ∧ level ≤ row.level ∧
      Unfolds row block (label.rows (Function.update flags key false) level)
        (label.rows flags level) := by
  match label with
  | .mk caption below =>
    rw [Label.keys, List.nodup_cons] at hnodup
    rcases mem_toggleKeysOf_rows.1 hshown with ⟨hopens, rfl⟩ | ⟨hisOpen, hbelow⟩
    · exact ⟨_, _, rfl, Nat.le_refl level, Label.rows_unfolds_self level hopens hopen hnested⟩
    · -- The key is below the label, so the label itself keeps its flag.
      have hne : caption.key ≠ key :=
        (ne_of_mem_of_not_mem (mem_labelKeys_of_mem_toggleKeysOf hbelow) hnodup.1).symm
      have hcaption : caption.toggle (Function.update flags key false) = caption.toggle flags := by
        rw [Caption.toggle, Caption.toggle, Function.update_of_ne hne]
      have hrow : caption.row (Function.update flags key false) level =
          caption.row flags level := by
        rw [Caption.row, Caption.row, hcaption]
      obtain ⟨row, block, hkey, hlevel, hunfolds⟩ :=
        labelRows_unfolds hopen hnodup.2 hnested.2 hbelow
      rw [Label.rows, Label.rows, hcaption, hrow, if_pos hisOpen, if_pos hisOpen]
      exact ⟨row, block, hkey, by omega, hunfolds.append_left [caption.row flags level]⟩

/-- **Unfolding.** In a forest with distinct keys, opening one label puts a block of deeper rows
below its row and leaves all other rows alone. -/
theorem labelRows_unfolds {flags : Flags} {key : LabelKey} {labels : List Label} {level : Nat}
    (hopen : flags key = true) (hnodup : (labelKeys labels).Nodup) (hnested : LabelsNested labels)
    (hshown : key ∈ toggleKeysOf (labelRows flags labels level)) :
    ∃ row block, row.key = key ∧ level ≤ row.level ∧
      Unfolds row block (labelRows (Function.update flags key false) labels level)
        (labelRows flags labels level) := by
  match labels with
  | [] => exact absurd hshown List.not_mem_nil
  | label :: rest =>
    rw [labelKeys, List.nodup_append] at hnodup
    rw [labelRows, toggleKeysOf_append, List.mem_append] at hshown
    rw [labelRows, labelRows]
    obtain ⟨hlabel, hrest, hdisjoint⟩ := hnodup
    by_cases hkey : key ∈ label.keys
    · -- The key is in the first label, so the other labels do not have it.
      have hnot : key ∉ labelKeys rest := fun h => hdisjoint key hkey key h rfl
      have hsame : labelRows (Function.update flags key false) rest level =
          labelRows flags rest level :=
        labelRows_congr level fun other hother =>
          Function.update_of_ne (ne_of_mem_of_not_mem hother hnot) _ _
      have hfirst : key ∈ toggleKeysOf (label.rows flags level) :=
        hshown.resolve_right fun h => hnot (mem_labelKeys_of_mem_toggleKeysOf h)
      obtain ⟨row, block, hrowkey, hlevel, hunfolds⟩ :=
        Label.rows_unfolds hopen hlabel hnested.1 hfirst
      rw [hsame]
      refine ⟨row, block, hrowkey, hlevel, hunfolds.append_right fun r hr => ?_⟩
      rw [level_of_mem_head?_labelRows hr]
      exact hlevel
    · -- The first label does not have the key, so it looks the same.
      have hsame : label.rows (Function.update flags key false) level = label.rows flags level :=
        Label.rows_congr level fun other hother =>
          Function.update_of_ne (ne_of_mem_of_not_mem hother hkey) _ _
      have hlater : key ∈ toggleKeysOf (labelRows flags rest level) := by
        refine hshown.resolve_left fun h => hkey ?_
        obtain ⟨row, hrow, rfl, -⟩ := mem_toggleKeysOf.1 h
        exact (Label.rowKeys_sublist flags label level).subset (List.mem_map_of_mem hrow)
      obtain ⟨row, block, hrowkey, hlevel, hunfolds⟩ :=
        labelRows_unfolds hopen hrest hnested.2 hlater
      rw [hsame]
      exact ⟨row, block, hrowkey, hlevel, hunfolds.append_left _⟩

end

namespace Unfolds

variable {row : Row} {block closed opened : List Row}

/-- Opening a label hides no other label with a toggle. -/
theorem mem_toggleKeysOf (h : Unfolds row block closed opened) {key : LabelKey}
    (hkey : key ∈ toggleKeysOf closed) : key ∈ toggleKeysOf opened := by
  obtain ⟨before, after, hclosed, hopened, -⟩ := h.split
  -- the row itself can be toggled before as after
  have hrow : row.flipped.toggle.isToggleable = row.toggle.isToggleable := by
    rw [Row.flipped]
    cases row.toggle <;> rfl
  rw [hclosed, toggleKeysOf_append, toggleKeysOf_cons, hrow, List.mem_append,
    List.mem_append] at hkey
  rw [hopened, toggleKeysOf_append, toggleKeysOf_cons, toggleKeysOf_append, List.mem_append,
    List.mem_append, List.mem_append]
  rcases hkey with hkey | hkey | hkey
  · exact .inl hkey
  · exact .inr (.inl hkey)
  · exact .inr (.inr (.inr hkey))

/-- Where keys are distinct, the labels of the block are new. -/
theorem key_not_mem_of_mem_block (h : Unfolds row block closed opened)
    (hnodup : (opened.map Row.key).Nodup) {r : Row} (hr : r ∈ block) :
    r.key ∉ closed.map Row.key := by
  obtain ⟨before, after, hclosed, hopened, -⟩ := h.split
  rw [hopened] at hnodup
  rw [hclosed]
  simp only [List.map_append, List.map_cons, List.nodup_append, List.nodup_cons, List.mem_append,
    List.mem_cons, List.mem_map, not_or] at hnodup ⊢
  obtain ⟨-, ⟨hrow, -, -, hafter⟩, hbefore⟩ := hnodup
  -- before the row, the row itself, behind the block
  refine ⟨?_, ?_, ?_⟩
  · rintro ⟨other, hother, heq⟩
    exact hbefore _ ⟨other, hother, rfl⟩ r.key (.inr (.inl ⟨r, hr, rfl⟩)) heq
  · intro heq
    exact hrow.1 ⟨r, hr, heq⟩
  · rintro ⟨other, hother, heq⟩
    exact hafter r.key ⟨r, hr, rfl⟩ _ ⟨other, hother, rfl⟩ heq.symm

end Unfolds

/-! ### Toggling between two passes -/

section Toggling

variable {rules : DisplayRules} {tree : Option Value} {store : ExpansionStore} {key : LabelKey}

/-- The labels that a pass over a tree visits. -/
theorem toggleKeys_viewRoot (rules : DisplayRules) (flags : Flags) (tree : Option Value) :
    (viewRoot rules flags tree).toggleKeys =
      toggleKeysOf (labelRows flags (rootLabels rules tree) 0) := by
  rw [toggleKeys_eq_rowsAt _ 0, ← rows_viewRoot]
  rfl

/-- A row with a toggle is that of a label that a pass visits. -/
theorem key_mem_toggleKeys {flags : Flags} {row : Row}
    (hrow : row ∈ labelRows flags (rootLabels rules tree) 0)
    (htoggle : row.toggle.isToggleable = true) :
    row.key ∈ (viewRoot rules flags tree).toggleKeys := by
  rw [toggleKeys_viewRoot]
  exact mem_toggleKeysOf.2 ⟨row, hrow, rfl, htoggle⟩

/-- Toggling a label that has a flag changes this flag only. -/
theorem ExpansionStore.flags_toggle {isOpen : Bool} (h : store.peek key = some isOpen) :
    (store.toggle key).2.flags rules = Function.update (store.flags rules) key (!isOpen) := by
  funext other
  rw [flags, peek_toggle]
  by_cases heq : key = other
  · subst heq
    rw [if_pos rfl, h, Function.update_self]
    rfl
  · rw [if_neg heq, Function.update_of_ne (Ne.symm heq)]
    rfl

namespace ExpansionStore.Settled

/-- In a settled store, toggling a label that is shown flips its flag. -/
theorem flags_toggle (h : store.Settled rules tree)
    (hshown : key ∈ (viewRoot rules (store.flags rules) tree).toggleKeys) :
    (store.toggle key).2.flags rules =
      Function.update (store.flags rules) key (!store.flags rules key) :=
  ExpansionStore.flags_toggle (h.peek_of_mem hshown)

/-- A closed label that is shown is still shown once it is open. -/
theorem mem_toggleKeys_toggle (h : store.Settled rules tree)
    (hshown : key ∈ (viewRoot rules (store.flags rules) tree).toggleKeys) :
    key ∈ (viewRoot rules ((store.toggle key).2.flags rules) tree).toggleKeys := by
  -- Were it not shown, the view would not depend on its flag, and it would be shown as before.
  by_contra hnot
  rw [h.flags_toggle hshown] at hnot
  have hsame : viewRoot rules (store.flags rules) tree =
      viewRoot rules (Function.update (store.flags rules) key (!store.flags rules key)) tree :=
    viewRoot_congr fun other hother =>
      (Function.update_of_ne (ne_of_mem_of_not_mem hother hnot) _ _).symm
  rw [← hsame] at hnot
  exact hnot hshown

/-- **Closing a label.** The next pass shows the rows without the block below the label. -/
theorem unfolds_of_opened (h : store.Settled rules tree) (wf : WellFormedTree tree)
    (hshown : key ∈ (viewRoot rules (store.flags rules) tree).toggleKeys)
    (hopen : store.flags rules key = true) :
    ∃ row block, row.key = key ∧
      Unfolds row block (labelRows ((store.toggle key).2.flags rules) (rootLabels rules tree) 0)
        (labelRows (store.flags rules) (rootLabels rules tree) 0) := by
  have hrows := toggleKeys_viewRoot rules (store.flags rules) tree ▸ hshown
  obtain ⟨row, block, hkey, -, hunfolds⟩ :=
    labelRows_unfolds hopen (rootLabels_nodup rules wf) (rootLabels_nested rules tree) hrows
  rw [h.flags_toggle hshown, hopen]
  exact ⟨row, block, hkey, hunfolds⟩

/-- **Opening a label.** The next pass shows the rows with a block put below the label. -/
theorem unfolds_of_closed (h : store.Settled rules tree) (wf : WellFormedTree tree)
    (hshown : key ∈ (viewRoot rules (store.flags rules) tree).toggleKeys)
    (hclosed : store.flags rules key = false) :
    ∃ row block, row.key = key ∧
      Unfolds row block (labelRows (store.flags rules) (rootLabels rules tree) 0)
        (labelRows ((store.toggle key).2.flags rules) (rootLabels rules tree) 0) := by
  have hflags : (store.toggle key).2.flags rules =
      Function.update (store.flags rules) key true := by
    rw [h.flags_toggle hshown, hclosed]
    rfl
  -- Opening is closing read backwards: the flags before are those after with the key closed.
  have hback : Function.update (Function.update (store.flags rules) key true) key false =
      store.flags rules := by
    rw [Function.update_idem, ← hclosed, Function.update_eq_self]
  have hrows := toggleKeys_viewRoot rules _ tree ▸ h.mem_toggleKeys_toggle hshown
  rw [hflags] at hrows ⊢
  obtain ⟨row, block, hkey, -, hunfolds⟩ :=
    labelRows_unfolds (Function.update_self ..) (rootLabels_nodup rules wf)
      (rootLabels_nested rules tree) hrows
  rw [hback] at hunfolds
  exact ⟨row, block, hkey, hunfolds⟩

/-- What comes with an opened label is not remembered: it starts from what the rules say. -/
theorem toggle_of_mem_block (h : store.Settled rules tree) (wf : WellFormedTree tree)
    (hshown : key ∈ (viewRoot rules (store.flags rules) tree).toggleKeys)
    {row : Row} {block : List Row} (hrow : row.key = key)
    (hunfolds : Unfolds row block (labelRows (store.flags rules) (rootLabels rules tree) 0)
      (labelRows ((store.toggle key).2.flags rules) (rootLabels rules tree) 0))
    {r : Row} (hr : r ∈ block) (htoggle : r.toggle.isToggleable = true) :
    r.toggle = .ofOpen (rules.startsOpen r.key.path) := by
  obtain ⟨before, after, hclosed, hopened, -⟩ := hunfolds.split
  have hin : r ∈ labelRows ((store.toggle key).2.flags rules) (rootLabels rules tree) 0 := by
    rw [hopened]
    exact List.mem_append_right _ (List.mem_cons_of_mem _ (List.mem_append_left _ hr))
  have hnew := hunfolds.key_not_mem_of_mem_block
    ((rowKeys_sublist _ _ 0).nodup (rootLabels_nodup rules wf)) hr
  have hne : r.key ≠ key := by
    -- The row of the key itself is among the rows before.
    intro heq
    refine hnew ?_
    rw [heq, ← hrow, hclosed]
    exact List.mem_map.2 ⟨row.flipped, by simp, rfl⟩
  have hnot : r.key ∉ (viewRoot rules (store.flags rules) tree).toggleKeys := by
    rw [toggleKeys_viewRoot]
    intro hmem
    obtain ⟨other, hother, hkey, -⟩ := mem_toggleKeysOf.1 hmem
    exact hnew (List.mem_map.2 ⟨other, hother, hkey⟩)
  rw [toggle_of_mem_labelRows hin htoggle, h.flags_toggle hshown, Function.update_of_ne hne,
    h.flags_of_not_mem hnot]

/-- A pass over a store with the flags of a settled one leaves the snapshot of the settled one. -/
theorem snapshot_of_flags_eq (h : store.Settled rules tree) {other : ExpansionStore}
    (hseen : other.SeenBounded) (hflags : other.flags rules = store.flags rules) :
    (renderRoot rules tree other).2.snapshot = store.snapshot := by
  rw [ExpansionStore.snapshot_eq_iff]
  intro shown
  rw [TreeOutline.peek_renderRoot hseen, hflags, h.peek_eq]

/-- **There and back.** Opening a closed label, rendering, and closing it again leaves the flags
as they were: the labels that came and went start again from what the rules say. -/
theorem flags_toggle_toggle (h : store.Settled rules tree) (wf : WellFormedTree tree)
    (hshown : key ∈ (viewRoot rules (store.flags rules) tree).toggleKeys)
    (hclosed : store.flags rules key = false) :
    ((renderRoot rules tree (store.toggle key).2).2.toggle key).2.flags rules =
      store.flags rules := by
  obtain ⟨row, block, -, hunfolds⟩ := h.unfolds_of_closed wf hshown hclosed
  have hseen : (store.toggle key).2.SeenBounded := h.seenBounded.toggle key
  have hflags := h.flags_toggle hshown
  have hopened := h.mem_toggleKeys_toggle hshown
  have hpeek : (renderRoot rules tree (store.toggle key).2).2.peek key = some true := by
    rw [TreeOutline.peek_renderRoot hseen, if_pos hopened, hflags, Function.update_self, hclosed]
    rfl
  rw [ExpansionStore.flags_toggle hpeek]
  funext other
  by_cases heq : other = key
  · subst heq
    rw [Function.update_self, hclosed]
    rfl
  · rw [Function.update_of_ne heq, flags_renderRoot hseen]
    by_cases hin : other ∈ (viewRoot rules ((store.toggle key).2.flags rules) tree).toggleKeys
    · rw [if_pos hin, hflags, Function.update_of_ne heq]
    · -- What is not shown after the label was opened was not shown before either.
      have hnot : other ∉ (viewRoot rules (store.flags rules) tree).toggleKeys := by
        rw [toggleKeys_viewRoot] at hin ⊢
        exact fun hother => hin (hunfolds.mem_toggleKeysOf hother)
      rw [if_neg hin, h.flags_of_not_mem hnot]

/-- The same of rows and snapshot: toggling a closed label twice restores both. -/
theorem renderRoot_toggle_toggle (h : store.Settled rules tree) (wf : WellFormedTree tree)
    (hshown : key ∈ (viewRoot rules (store.flags rules) tree).toggleKeys)
    (hclosed : store.flags rules key = false) :
    let second := renderRoot rules tree (store.toggle key).2
    let third := renderRoot rules tree (second.2.toggle key).2
    third.1.rows = labelRows (store.flags rules) (rootLabels rules tree) 0 ∧
      third.2.snapshot = store.snapshot := by
  intro second third
  -- two toggles give back the flags, and rows and snapshot depend on no more
  have hflags : (second.2.toggle key).2.flags rules = store.flags rules :=
    h.flags_toggle_toggle wf hshown hclosed
  have hsecond : second.2.Settled rules tree := (h.seenBounded.toggle key).settled rules tree
  constructor
  · show (renderRoot rules tree (second.2.toggle key).2).1.rows = _
    rw [rows_renderRoot, hflags]
  · exact h.snapshot_of_flags_eq (hsecond.seenBounded.toggle key) hflags

end ExpansionStore.Settled

end Toggling

/-! ### The same by indexes -/

namespace Unfolds

variable {row : Row} {block closed opened : List Row}

/-- The block ends where the first row that is not deeper stands. -/
theorem dropWhile_deeper {after : List Row} (hdeeper : ∀ r ∈ block, row.level < r.level)
    (hstop : ∀ r ∈ after.head?, r.level ≤ row.level) :
    (block ++ after).dropWhile (fun r => decide (row.level < r.level)) = after := by
  rw [List.dropWhile_append_of_pos fun r hr => decide_eq_true (hdeeper r hr)]
  cases after with
  | nil => rfl
  | cons first rest =>
    -- the first row behind the block is no deeper, so dropping ends there
    have hfirst : first.level ≤ row.level := hstop first rfl
    rw [List.dropWhile_cons, if_neg]
    simpa using hfirst

/-- An unfolding by indexes: where the row is, what is above it, and what is below it. -/
theorem exists_index (h : Unfolds row block closed opened) :
    ∃ i, closed[i]? = some row.flipped ∧ opened[i]? = some row ∧
      opened.take i = closed.take i ∧ opened.drop (i + 1) = block ++ closed.drop (i + 1) ∧
      closed.drop (i + 1) =
        (opened.drop (i + 1)).dropWhile fun r => decide (row.level < r.level) := by
  obtain ⟨before, after, rfl, rfl, hstop⟩ := h.split
  have hget (r : Row) (rows : List Row) : (before ++ r :: rows)[before.length]? = some r := by
    rw [List.getElem?_append_right (Nat.le_refl _), Nat.sub_self, List.getElem?_cons_zero]
  have hdrop (r : Row) (rows : List Row) :
      (before ++ r :: rows).drop (before.length + 1) = rows := by
    rw [List.drop_append, List.drop_eq_nil_of_le (Nat.le_succ _), Nat.add_sub_cancel_left,
      List.drop_succ_cons, List.drop_zero, List.nil_append]
  -- the row stands behind what is before it, in both lists
  refine ⟨before.length, hget _ _, hget _ _, ?_, ?_, ?_⟩
  · rw [List.take_left, List.take_left]
  · rw [hdrop, hdrop]
  · rw [hdrop, hdrop]
    exact (dropWhile_deeper (fun r hr => (h.deeper r hr).1) hstop).symm

/-- The closed side by indexes. -/
theorem at_index_closed (h : Unfolds row block closed opened)
    (hnodup : (closed.map Row.key).Nodup) {i : Nat} (hi : i < closed.length)
    (hkey : closed[i].key = row.key) :
    opened.take i = closed.take i ∧ opened[i]? = some closed[i].flipped ∧
      opened.drop (i + 1) = block ++ closed.drop (i + 1) ∧ closed[i].level = row.level := by
  obtain ⟨j, hclosed, hopened, htake, hdrop, -⟩ := h.exists_index
  obtain ⟨hj, hrow⟩ := List.getElem?_eq_some_iff.1 hclosed
  have hij : i = j := index_eq_of_key_eq hnodup hi hj (by rw [hkey, hrow]; rfl)
  subst hij
  rw [hrow, Row.flipped_flipped]
  exact ⟨htake, hopened, hdrop, rfl⟩

/-- The open side by indexes. -/
theorem at_index_opened (h : Unfolds row block closed opened)
    (hnodup : (opened.map Row.key).Nodup) {i : Nat} (hi : i < opened.length)
    (hkey : opened[i].key = row.key) :
    closed.take i = opened.take i ∧ closed[i]? = some opened[i].flipped ∧
      closed.drop (i + 1) =
        (opened.drop (i + 1)).dropWhile fun r => decide (opened[i].level < r.level) := by
  obtain ⟨j, hclosed, hopened, htake, -, hdrop⟩ := h.exists_index
  obtain ⟨hj, hrow⟩ := List.getElem?_eq_some_iff.1 hopened
  have hij : i = j := index_eq_of_key_eq hnodup hi hj (by rw [hkey, hrow])
  subst hij
  rw [hrow]
  exact ⟨htake.symm, hclosed, hdrop⟩

end Unfolds

/-- **A toggle is local.** After a pass over a well-formed tree, let one label with a toggle be
toggled and the tree be rendered again.  The rows above it stay, its own row changes its toggle
only.  If it was open, exactly the block of deeper rows below it goes.  If it was closed, a block of
deeper rows within its path comes, each seeded by the rules, and toggling the label once more
restores the rows and the snapshot. -/
theorem toggle_unfolds_rows (rules : DisplayRules) {tree : Option Value}
    (wf : WellFormedTree tree) {store : ExpansionStore} (reachable : store.Reachable) (i : Nat)
    (hi : i < (renderRoot rules tree store).1.rows.length)
    (toggleable : (renderRoot rules tree store).1.rows[i].toggle.isToggleable = true) :
    let first := renderRoot rules tree store
    let rows := first.1.rows
    let second := renderRoot rules tree (first.2.toggle rows[i].key).2
    let rows' := second.1.rows
    let third := renderRoot rules tree (second.2.toggle rows[i].key).2
    rows'.take i = rows.take i ∧
      rows'[i]? = some { rows[i] with toggle := rows[i].toggle.flip } ∧
      (rows[i].toggle = .opened →
        rows'.drop (i + 1) =
          (rows.drop (i + 1)).dropWhile fun row => decide (rows[i].level < row.level)) ∧
      (rows[i].toggle = .closed →
        (∃ block, rows'.drop (i + 1) = block ++ rows.drop (i + 1) ∧
          ∀ row ∈ block, rows[i].level < row.level ∧
            row.key.path.startsWith rows[i].key.path = true ∧
            (row.toggle.isToggleable = true →
              (row.toggle.isOpen = true ↔ (row.key.path.length : Int) ≤ rules.openDepth))) ∧
        third.1.rows = rows ∧ third.2.snapshot = first.2.snapshot) := by
  intro first rows second rows' third
  have hsettled : first.2.Settled rules tree := reachable.seenBounded.settled rules tree
  have hrows : rows = labelRows (first.2.flags rules) (rootLabels rules tree) 0 :=
    rows_renderRoot_flags reachable.seenBounded
  have hrows' : rows' =
      labelRows ((first.2.toggle rows[i].key).2.flags rules) (rootLabels rules tree) 0 :=
    rows_renderRoot rules tree _
  have hmem : rows[i] ∈ labelRows (first.2.flags rules) (rootLabels rules tree) 0 :=
    hrows ▸ List.getElem_mem hi
  have hshown : rows[i].key ∈ (viewRoot rules (first.2.flags rules) tree).toggleKeys :=
    key_mem_toggleKeys hmem toggleable
  have hshows : rows[i].toggle = .ofOpen (first.2.flags rules rows[i].key) :=
    toggle_of_mem_labelRows hmem toggleable
  have hnodup : (rows.map Row.key).Nodup := rowKeys_nodup rules wf store
  -- Both cases compare the rows of one forest under flags that differ at this key.
  cases hflag : first.2.flags rules rows[i].key with
  | true =>
    obtain ⟨row, block, hkey, hunfolds⟩ := hsettled.unfolds_of_opened wf hshown hflag
    rw [← hrows, ← hrows'] at hunfolds
    obtain ⟨htake, hget, hdrop⟩ := hunfolds.at_index_opened hnodup hi hkey.symm
    refine ⟨htake, hget, fun _ => hdrop, fun hclosed => ?_⟩
    rw [hshows, hflag] at hclosed
    exact nomatch hclosed
  | false =>
    obtain ⟨row, block, hkey, hunfolds⟩ := hsettled.unfolds_of_closed wf hshown hflag
    have hseeded := fun r (hr : r ∈ block) =>
      hsettled.toggle_of_mem_block wf hshown hkey hunfolds hr
    rw [← hrows, ← hrows'] at hunfolds
    obtain ⟨htake, hget, hdrop, hlevel⟩ := hunfolds.at_index_closed hnodup hi hkey.symm
    obtain ⟨hback, hsnapshot⟩ := hsettled.renderRoot_toggle_toggle wf hshown hflag
    rw [← hrows] at hback
    refine ⟨htake, hget, fun hopened => ?_,
      fun _ => ⟨⟨block, hdrop, fun r hr => ?_⟩, hback, hsnapshot⟩⟩
    · rw [hshows, hflag] at hopened
      exact nomatch hopened
    · obtain ⟨hdeeper, hwithin⟩ := hunfolds.deeper r hr
      refine ⟨hlevel ▸ hdeeper, Path.startsWith_iff.2 (hkey ▸ hwithin), fun htoggle => ?_⟩
      rw [hseeded r hr htoggle, Toggle.isOpen_ofOpen, DisplayRules.startsOpen, decide_eq_true_iff]

/-- The body of the tree opens on two labels, and closing it again restores rows and snapshot. -/
theorem toggle_unfolds_rows_body :
    let body : LabelKey := ⟨.group, [.field "body"]⟩
    let first := renderRoot .standard (some sampleTree) .empty
    let second := renderRoot .standard (some sampleTree) (first.2.toggle body).2
    let third := renderRoot .standard (some sampleTree) (second.2.toggle body).2
    WellFormedTree (some sampleTree) ∧ ExpansionStore.empty.Reachable ∧
      first.1.rows[1]?.map (fun row => (row.key, row.toggle)) = some (body, .closed) ∧
      second.1.rows.take 1 = first.1.rows.take 1 ∧ second.1.rows.length = 4 ∧
      third.1.rows = first.1.rows ∧ third.2.snapshot = first.2.snapshot := by
  have hi : 1 < (renderRoot .standard (some sampleTree) .empty).1.rows.length := by cbv
  have htoggle : (renderRoot .standard (some sampleTree) .empty).1.rows[1].toggle = .closed := by
    cbv
  have hkey : (renderRoot .standard (some sampleTree) .empty).1.rows[1].key =
      ⟨.group, [.field "body"]⟩ := by cbv
  -- opening the group and closing it again
  obtain ⟨htake, -, -, hclosed⟩ := toggle_unfolds_rows .standard sampleTree_wellFormed .empty 1 hi
    (by rw [htoggle]; rfl)
  obtain ⟨-, hrows, hsnapshot⟩ := hclosed htoggle
  rw [hkey] at htake hrows hsnapshot
  exact ⟨sampleTree_wellFormed, .empty, by cbv, htake, by cbv, hrows, hsnapshot⟩

end TreeOutline
