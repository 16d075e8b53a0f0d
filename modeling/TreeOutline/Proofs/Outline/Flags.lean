import TreeOutline.Outline.Expansion
import TreeOutline.Outline.Rules

namespace TreeOutline

/-!
# The flags of a pass

What a pass reads from the expansion store, and what it leaves there.

* `Flags`, `ExpansionStore.flags` — which labels are open, as a function of the key.
* `ExpansionStore.visitAll` — the labels of a list are visited one after the other;
  `flags_visitAll` says that no visit disturbs a later one.
* `ExpansionStore.SeenBounded` — no label was seen in a pass that has not begun; every operation
  keeps this (`SeenBounded.visit` and its neighbours).
* `getElem?_sweep` — under this invariant a whole pass keeps exactly the labels it visited.
* `snapshot_eq_iff` — a snapshot says no more and no less than the flags.
-/

/-- Which labels are open. -/
abbrev Flags := LabelKey → Bool

/-- Rules that open labels to the same depth seed them alike. -/
theorem DisplayRules.startsOpen_eq_of_openDepth {rules other : DisplayRules}
    (hdepth : rules.openDepth = other.openDepth) : rules.startsOpen = other.startsOpen := by
  funext path
  unfold startsOpen
  rw [hdepth]

namespace ExpansionStore

variable {store : ExpansionStore} {rules : DisplayRules}

/-- The flags that a pass works with: those of the store, and for a label without one what the
rules say of its path. -/
def flags (store : ExpansionStore) (rules : DisplayRules) : Flags :=
  fun key => (store.peek key).getD (rules.startsOpen key.path)

/-- Visits the labels of a list in order, each seeded by the rules. -/
def visitAll (rules : DisplayRules) (store : ExpansionStore) (keys : List LabelKey) :
    ExpansionStore :=
  keys.foldl (fun store key => (store.visit key (rules.startsOpen key.path)).2) store

/-- Rules that seed alike read the same flags. -/
theorem flags_eq_of_openDepth {other : DisplayRules} (hdepth : rules.openDepth = other.openDepth)
    (store : ExpansionStore) : store.flags rules = store.flags other := by
  unfold flags
  rw [DisplayRules.startsOpen_eq_of_openDepth hdepth]

/-- Rules that seed alike leave the same behind. -/
theorem visitAll_eq_of_openDepth {other : DisplayRules}
    (hdepth : rules.openDepth = other.openDepth) (store : ExpansionStore)
    (keys : List LabelKey) : store.visitAll rules keys = store.visitAll other keys := by
  unfold visitAll
  rw [DisplayRules.startsOpen_eq_of_openDepth hdepth]

/-! ### One visit -/

/-- A visit writes the entry of its own key and no other. -/
theorem getElem?_visit (store : ExpansionStore) (key other : LabelKey) (seed : Bool) :
    (store.visit key seed).2.entries[other]? =
      if key = other then some ⟨(store.peek key).getD seed, store.pass⟩
      else store.entries[other]? := by
  simp only [visit, Std.TreeMap.getElem?_insert, Std.LawfulEqOrd.compare_eq_iff_eq]

/-- A visit seeded by the rules changes no flag that the pass reads later. -/
@[simp] theorem flags_visit (store : ExpansionStore) (rules : DisplayRules) (key : LabelKey) :
    (store.visit key (rules.startsOpen key.path)).2.flags rules = store.flags rules := by
  funext other
  unfold flags
  rw [peek_visit]
  by_cases h : key = other
  · subst h; simp
  · rw [if_neg h]

/-! ### Many visits -/

@[simp] theorem visitAll_nil (rules : DisplayRules) (store : ExpansionStore) :
    store.visitAll rules [] = store := rfl

@[simp] theorem visitAll_cons (rules : DisplayRules) (store : ExpansionStore) (key : LabelKey)
    (keys : List LabelKey) :
    store.visitAll rules (key :: keys) =
      (store.visit key (rules.startsOpen key.path)).2.visitAll rules keys := rfl

/-- Visiting keys in two runs is visiting them in one. -/
theorem visitAll_append (rules : DisplayRules) (store : ExpansionStore)
    (first second : List LabelKey) :
    store.visitAll rules (first ++ second) =
      (store.visitAll rules first).visitAll rules second := by
  unfold visitAll
  rw [List.foldl_append]

/-- **No interference.** However many labels were visited, the pass still reads the flags that it
began with. -/
@[simp] theorem flags_visitAll (store : ExpansionStore) (rules : DisplayRules)
    (keys : List LabelKey) : (store.visitAll rules keys).flags rules = store.flags rules := by
  induction keys generalizing store with
  | nil => rfl
  | cons key keys ih => rw [visitAll_cons, ih, flags_visit]

@[simp] theorem pass_visitAll (store : ExpansionStore) (rules : DisplayRules)
    (keys : List LabelKey) : (store.visitAll rules keys).pass = store.pass := by
  induction keys generalizing store with
  | nil => rfl
  | cons key keys ih => rw [visitAll_cons, ih, pass_visit]

/-- After the visits each visited label has its flag and the mark of this pass; all other entries
are untouched. -/
theorem getElem?_visitAll (store : ExpansionStore) (rules : DisplayRules) (keys : List LabelKey)
    (other : LabelKey) :
    (store.visitAll rules keys).entries[other]? =
      if other ∈ keys then some ⟨store.flags rules other, store.pass⟩
      else store.entries[other]? := by
  induction keys generalizing store with
  | nil => simp
  | cons key keys ih =>
    rw [visitAll_cons, ih, flags_visit, pass_visit, getElem?_visit]
    -- A label that is visited once more later keeps the flag of its first visit.
    by_cases hin : other ∈ keys
    · rw [if_pos hin, if_pos (List.mem_cons_of_mem key hin)]
    · rw [if_neg hin]
      by_cases heq : key = other
      · subst heq
        rw [if_pos rfl, if_pos List.mem_cons_self]
        rfl
      · have hnot : other ∉ key :: keys := by
          rw [List.mem_cons, not_or]
          exact ⟨fun h => heq h.symm, hin⟩
        rw [if_neg heq, if_neg hnot]

/-- The flags after the visits. -/
theorem peek_visitAll (store : ExpansionStore) (rules : DisplayRules) (keys : List LabelKey)
    (other : LabelKey) :
    (store.visitAll rules keys).peek other =
      if other ∈ keys then some (store.flags rules other) else store.peek other := by
  rw [peek, getElem?_visitAll]
  by_cases hin : other ∈ keys
  · rw [if_pos hin, if_pos hin]; rfl
  · rw [if_neg hin, if_neg hin]; rfl

/-! ### No label was seen in a pass to come -/

/-- Every label was last seen in a pass that has begun. -/
def SeenBounded (store : ExpansionStore) : Prop :=
  ∀ (key : LabelKey) (state : LabelState),
    store.entries[key]? = some state → state.seen ≤ store.pass

namespace SeenBounded

theorem empty : ExpansionStore.empty.SeenBounded := by
  intro key state h
  simp [ExpansionStore.empty] at h

/-- A new pass is later than everything seen before. -/
theorem beginPass (h : store.SeenBounded) : store.beginPass.SeenBounded := by
  intro key state hstate
  have hle : state.seen ≤ store.pass := h key state hstate
  show state.seen ≤ store.pass + 1
  omega

/-- A visit is seen in its own pass. -/
theorem visit (h : store.SeenBounded) (key : LabelKey) (seed : Bool) :
    (store.visit key seed).2.SeenBounded := by
  intro other state hstate
  rw [getElem?_visit] at hstate
  rw [pass_visit]
  by_cases heq : key = other
  · rw [if_pos heq, Option.some.injEq] at hstate
    exact Nat.le_of_eq (congrArg LabelState.seen hstate.symm)
  · rw [if_neg heq] at hstate
    exact h other state hstate

/-- Nor does any number of visits reach beyond the pass. -/
theorem visitAll (h : store.SeenBounded) (rules : DisplayRules) (keys : List LabelKey) :
    (store.visitAll rules keys).SeenBounded := by
  induction keys generalizing store with
  | nil => exact h
  | cons key keys ih => exact ih (h.visit key _)

/-- A flag that is set is seen in the current pass. -/
theorem setOpen (h : store.SeenBounded) (key : LabelKey) (isOpen : Bool) :
    (store.setOpen key isOpen).2.SeenBounded := by
  unfold ExpansionStore.setOpen
  cases hentry : store.entries[key]? with
  | none => exact h
  | some old =>
    -- The entry that is written keeps the pass in which its label was seen.
    intro other state hstate
    simp only [Std.TreeMap.getElem?_insert, Std.LawfulEqOrd.compare_eq_iff_eq] at hstate
    by_cases heq : key = other
    · rw [if_pos heq, Option.some.injEq] at hstate
      rw [← hstate]
      exact h key old hentry
    · rw [if_neg heq] at hstate
      exact h other state hstate

/-- So is one that is toggled. -/
theorem toggle (h : store.SeenBounded) (key : LabelKey) : (store.toggle key).2.SeenBounded := by
  unfold ExpansionStore.toggle
  cases store.peek key with
  | none => exact h
  | some isOpen => exact h.setOpen key (!isOpen)

/-- Dropping entries leaves the others as they were seen. -/
theorem endPass (h : store.SeenBounded) : store.endPass.SeenBounded := by
  intro key state hstate
  rw [ExpansionStore.endPass, Std.TreeMap.getElem?_filter', Option.filter_eq_some_iff] at hstate
  exact h key state hstate.1

end SeenBounded

/-! ### A whole pass -/

/-- **What a pass keeps.** Visiting labels between the begin and the end of a pass leaves an entry
for exactly these labels, with the flag that the pass read. -/
theorem getElem?_sweep (h : store.SeenBounded) (rules : DisplayRules) (keys : List LabelKey)
    (key : LabelKey) :
    (store.beginPass.visitAll rules keys).endPass.entries[key]? =
      if key ∈ keys then some ⟨store.flags rules key, store.pass + 1⟩ else none := by
  rw [endPass, Std.TreeMap.getElem?_filter', getElem?_visitAll, pass_visitAll]
  show Option.filter _ (if key ∈ keys then some ⟨store.flags rules key, store.pass + 1⟩
    else store.entries[key]?) = _
  by_cases hin : key ∈ keys
  · rw [if_pos hin, if_pos hin, Option.filter_some_pos (by simp [beginPass])]
  · rw [if_neg hin, if_neg hin]
    cases hentry : store.entries[key]? with
    | none => rfl
    | some state =>
      -- The invariant: an entry that was not visited cannot carry the mark of the new pass.
      have hle : state.seen ≤ store.pass := h key state hentry
      rw [Option.filter_some_neg]
      have hne : state.seen ≠ store.pass + 1 := by omega
      simp [beginPass, hne]

/-- The flags that a pass leaves behind. -/
theorem peek_sweep (h : store.SeenBounded) (rules : DisplayRules) (keys : List LabelKey)
    (key : LabelKey) :
    (store.beginPass.visitAll rules keys).endPass.peek key =
      if key ∈ keys then some (store.flags rules key) else none := by
  rw [peek, getElem?_sweep h]
  by_cases hin : key ∈ keys
  · rw [if_pos hin, if_pos hin]; rfl
  · rw [if_neg hin, if_neg hin]; rfl

/-! ### Toggling -/

/-- The entries after a flag was set: only the flag of its own key changes, and only where there
is an entry. -/
theorem peek_setOpen (store : ExpansionStore) (key other : LabelKey) (isOpen : Bool) :
    (store.setOpen key isOpen).2.peek other =
      if key = other then (store.peek key).map fun _ => isOpen else store.peek other := by
  unfold setOpen
  cases hentry : store.entries[key]? with
  | none =>
    by_cases heq : key = other
    · subst heq; simp [peek, hentry]
    · rw [if_neg heq]
  | some state =>
    simp only [peek, Std.TreeMap.getElem?_insert, Std.LawfulEqOrd.compare_eq_iff_eq, hentry]
    split <;> rfl

/-- Toggling flips the flag of its own key and no other. -/
theorem peek_toggle (store : ExpansionStore) (key other : LabelKey) :
    (store.toggle key).2.peek other =
      if key = other then (store.peek key).map (! ·) else store.peek other := by
  unfold toggle
  cases hpeek : store.peek key with
  | none =>
    by_cases heq : key = other
    · subst heq; simp [hpeek]
    · rw [if_neg heq]
  | some isOpen =>
    rw [peek_setOpen, hpeek]
    rfl

/-! ### Snapshots -/

/-- A snapshot lists the flags without when they were seen. -/
theorem snapshot_eq_toList (store : ExpansionStore) :
    store.snapshot = (store.entries.map fun _ state => state.isOpen).toList := by
  rw [Std.TreeMap.toList_map]
  rfl

/-- A snapshot holds exactly the pairs that peeking finds. -/
theorem mem_snapshot_iff (store : ExpansionStore) (key : LabelKey) (isOpen : Bool) :
    (key, isOpen) ∈ store.snapshot ↔ store.peek key = some isOpen := by
  rw [snapshot_eq_toList, Std.TreeMap.mem_toList_iff_getElem?_eq_some, Std.TreeMap.getElem?_map]
  rfl

/-- **Snapshots are canonical.** Two stores have equal snapshots exactly when they have the same
flags, whatever passes they went through. -/
theorem snapshot_eq_iff {first second : ExpansionStore} :
    first.snapshot = second.snapshot ↔ ∀ key, first.peek key = second.peek key := by
  constructor
  · intro h key
    refine Option.ext fun isOpen => ?_
    rw [← mem_snapshot_iff, ← mem_snapshot_iff, h]
  · intro h
    rw [snapshot_eq_toList, snapshot_eq_toList]
    -- maps with the same lookups list the same entries, however they were built
    refine Std.TreeMap.Equiv.toList_eq (Std.TreeMap.Equiv.of_forall_constGet?_eq fun key => ?_)
    rw [Std.TreeMap.getElem?_map, Std.TreeMap.getElem?_map]
    exact h key

/-- Equal flags of two stores are read as equal flags by a pass. -/
theorem flags_eq_of_peek {first second : ExpansionStore} (rules : DisplayRules)
    (h : ∀ key, first.peek key = second.peek key) : first.flags rules = second.flags rules := by
  funext key
  rw [flags, flags, h key]

end ExpansionStore

end TreeOutline
