import Mathlib.Data.List.Sort
import TreeOutline.Proofs.Outline.Flags
import TreeOutline.Proofs.Outline.Pass

namespace TreeOutline

/-!
# Snapshots

What can be seen of an expansion store does not depend on how its entries are kept, nor on the order
in which different labels were dealt with.

* `Step.Before`, `Path.Before`, `LabelKey.Before` — the order of labels, said without comparing;
  `LabelKey.compare_eq_lt_iff` — it is the one that keys are compared by.
* `pairwise_snapshot`, `eq_snapshot_of_pairwise` — a snapshot is the one list of the flags in this
  order; `mergeSort_eq_snapshot` — whatever order they are taken in, sorting them gives it.
* `LabelOp` — what can be done to one label; `LabelOp.answer`, `LabelOp.update` — each operation
  reads and writes one entry.
* `ExpansionStore.Same` — two stores that no operation tells apart; `Same.run`.
* `LabelOp.apply_comm` — **operations on different labels commute**.
* `snapshot_canonical` — the whole of it.
-/

/-! ### The order of labels -/

/-- Fields come before positions; names are ordered by their characters, positions by number. -/
inductive Step.Before : Step → Step → Prop
  | names {a b : String} (h : a < b) : Before (.field a) (.field b)
  | field_index (a : String) (i : Nat) : Before (.field a) (.index i)
  | positions {i j : Nat} (h : i < j) : Before (.index i) (.index j)

/-- The first step in which two paths differ decides; a path comes before its extensions. -/
abbrev Path.Before (path other : Path) : Prop := List.Lex Step.Before path other

/-- Nodes come before groups, and in each role the paths decide. -/
inductive LabelKey.Before : LabelKey → LabelKey → Prop
  | roles (path other : Path) : Before ⟨.node, path⟩ ⟨.group, other⟩
  | paths (role : Role) {path other : Path} (h : path.Before other) :
    Before ⟨role, path⟩ ⟨role, other⟩

/-- The order of steps puts fields before items, and goes by names or numbers within them. -/
theorem Step.compare_eq_lt_iff {a b : Step} : compare a b = .lt ↔ a.Before b := by
  cases a with
  | field a =>
    cases b with
    | field b =>
      rw [compare_field_field, compare_lt_iff_lt]
      exact ⟨.names, fun | .names h => h⟩
    -- names come before positions, whatever they are
    | index j => exact iff_of_true rfl (.field_index a j)
  | index i =>
    cases b with
    | field b => exact iff_of_false (by simp) (by rintro ⟨⟩)
    | index j =>
      rw [compare_index_index, compare_lt_iff_lt]
      exact ⟨.positions, fun | .positions h => h⟩

/-- The order of paths is that of their first steps that differ. -/
theorem Path.compare_eq_lt_iff {path other : Path} :
    compare path other = .lt ↔ path.Before other := by
  -- the first steps decide unless they are equal, as in the order by which paths are listed
  induction path generalizing other with
  | nil =>
    cases other with
    | nil => exact iff_of_false (by simp) List.not_lex_nil
    | cons b other => exact iff_of_true List.compare_nil_cons .nil
  | cons a path ih =>
    cases other with
    | nil => exact iff_of_false (by simp [List.compare_cons_nil]) List.not_lex_nil
    | cons b other =>
      rw [List.compare_cons_cons, Ordering.then_eq_lt, Step.compare_eq_lt_iff,
        Std.LawfulEqOrd.compare_eq_iff_eq, ih]
      exact List.cons_lex_cons_iff.symm

namespace LabelKey

/-- **The order of labels** is the one that keys are compared by. -/
theorem compare_eq_lt_iff {key other : LabelKey} : compare key other = .lt ↔ key.Before other := by
  obtain ⟨role, path⟩ := key
  obtain ⟨role', other⟩ := other
  rw [compare_eq, Ordering.then_eq_lt, Std.LawfulEqOrd.compare_eq_iff_eq, Path.compare_eq_lt_iff]
  constructor
  · -- the roles decide first, nodes before groups
    rintro (hrole | ⟨hrole, hpath⟩)
    · cases role with
      | node =>
        cases role' with
        | node => exact nomatch hrole
        | group => exact .roles path other
      | group => cases role' <;> exact nomatch hrole
    · obtain rfl : role = role' := hrole
      exact .paths role hpath
  · rintro (⟨-, -⟩ | ⟨-, hpath⟩)
    · exact .inl rfl
    · exact .inr ⟨rfl, hpath⟩

/-- Of two keys at most one comes before the other. -/
theorem Before.asymm {key other : LabelKey} (h : key.Before other) : ¬other.Before key := by
  rw [← compare_eq_lt_iff] at h ⊢
  rw [Std.OrientedOrd.eq_swap (a := other), h]
  decide

end LabelKey

/-! ### A snapshot is the one sorted list of the flags -/

namespace ExpansionStore

variable {store : ExpansionStore}

/-- A snapshot is strictly increasing. -/
theorem pairwise_snapshot (store : ExpansionStore) :
    store.snapshot.Pairwise fun a b => a.1.Before b.1 := by
  rw [snapshot, List.pairwise_map]
  exact Std.TreeMap.ordered_keys_toList.imp fun h => LabelKey.compare_eq_lt_iff.1 h

/-- **There is one list only** that is strictly increasing and has the flags of a store. -/
theorem eq_snapshot_of_pairwise {listing : List (LabelKey × Bool)}
    (hincreasing : listing.Pairwise fun a b => a.1.Before b.1)
    (hflags : ∀ key isOpen, (key, isOpen) ∈ listing ↔ store.peek key = some isOpen) :
    listing = store.snapshot := by
  have hasymm : Std.Asymm fun a b : LabelKey × Bool => a.1.Before b.1 := ⟨fun _ _ h => h.asymm⟩
  refine hincreasing.eq_of_mem_iff store.pairwise_snapshot ?_
  rintro ⟨key, isOpen⟩
  rw [hflags, mem_snapshot_iff]

/-- However the entries are kept: taken in any order and sorted by their labels, they give the
snapshot. -/
theorem mergeSort_eq_snapshot {entries : List (LabelKey × Bool)}
    (h : entries.Perm store.snapshot) :
    entries.mergeSort (fun a b => (compare a.1 b.1).isLE) = store.snapshot := by
  have hperm := (List.mergeSort_perm entries fun a b => (compare a.1 b.1).isLE).trans h
  have hsorted : (entries.mergeSort fun a b => (compare a.1 b.1).isLE).Pairwise
      fun a b => (compare a.1 b.1).isLE = true := by
    refine List.pairwise_mergeSort ?_ ?_ entries
    · intro a b c hab hbc
      exact Std.TransOrd.isLE_trans hab hbc
    · intro a b
      rw [Std.OrientedOrd.eq_swap (a := b.1)]
      cases compare a.1 b.1 <;> rfl
  refine hperm.eq_of_pairwise ?_ hsorted (store.pairwise_snapshot.imp fun hbefore => ?_)
  · -- Entries that are on a par have one key, and a key has one flag.
    rintro ⟨key, isOpen⟩ ⟨other, isOpen'⟩ hmem hmem' hle hge
    obtain rfl : key = other := by
      refine Std.LawfulEqOrd.eq_of_compare ?_
      rw [Std.OrientedOrd.eq_swap (a := other)] at hge
      revert hle hge
      dsimp only
      cases compare key other <;> decide
    have hflag := (mem_snapshot_iff store key isOpen).1 (hperm.mem_iff.1 hmem)
    rw [(mem_snapshot_iff store key isOpen').1 hmem'] at hflag
    rw [Option.some.inj hflag]
  · rw [LabelKey.compare_eq_lt_iff.2 hbefore]
    rfl

/-- Setting a flag writes one entry. -/
theorem getElem?_setOpen (store : ExpansionStore) (key other : LabelKey) (isOpen : Bool) :
    (store.setOpen key isOpen).2.entries[other]? =
      if key = other then store.entries[key]?.map fun state => { state with isOpen }
      else store.entries[other]? := by
  unfold setOpen
  cases hentry : store.entries[key]? with
  | none =>
    -- an unknown key is not made, so nothing changes at any key
    by_cases heq : key = other
    · subst heq
      rw [if_pos rfl]
      exact hentry
    · rw [if_neg heq]
  | some state =>
    simp only [Std.TreeMap.getElem?_insert, Std.LawfulEqOrd.compare_eq_iff_eq]
    rfl

/-! ### Stores that no operation tells apart -/

/-- The two stores have the same entries and are in the same pass. -/
structure Same (first second : ExpansionStore) : Prop where
  pass_eq : first.pass = second.pass
  entries_eq : ∀ key : LabelKey, first.entries[key]? = second.entries[key]?

namespace Same

variable {first second : ExpansionStore}

/-- Stores with the same entries have the same snapshot. -/
theorem snapshot_eq (h : first.Same second) : first.snapshot = second.snapshot :=
  snapshot_eq_iff.2 fun key => congrArg (Option.map LabelState.isOpen) (h.entries_eq key)

/-- Stores with the same entries and pass have the same stale keys. -/
theorem stale_eq (h : first.Same second) : first.stale = second.stale := by
  have hentries : first.entries.toList = second.entries.toList :=
    Std.TreeMap.Equiv.toList_eq (Std.TreeMap.Equiv.of_forall_constGet?_eq h.entries_eq)
  unfold stale
  rw [hentries, h.pass_eq]

/-- Stores that are the same stay so when a pass begins. -/
theorem beginPass (h : first.Same second) : first.beginPass.Same second.beginPass where
  pass_eq := congrArg (· + 1) h.pass_eq
  entries_eq := h.entries_eq

/-- They stay so when it ends. -/
theorem endPass (h : first.Same second) : first.endPass.Same second.endPass where
  pass_eq := h.pass_eq
  entries_eq := by
    intro key
    rw [ExpansionStore.endPass, ExpansionStore.endPass, Std.TreeMap.getElem?_filter',
      Std.TreeMap.getElem?_filter', h.entries_eq, h.pass_eq]

end Same

end ExpansionStore

/-! ### What is done to one label -/

/-- What can be done to one label. -/
inductive LabelOp where
  /-- The label is shown, and its flag asked for. -/
  | visit (seed : Bool)
  | toggle
  | setOpen (isOpen : Bool)
deriving DecidableEq, Repr

/-- What is answered. -/
inductive LabelAnswer where
  /-- The label's flag. -/
  | flag (isOpen : Bool)
  /-- The flag after it was flipped, if there is one. -/
  | flipped (isOpen : Option Bool)
  /-- Whether there was a flag to set. -/
  | known (isKnown : Bool)
deriving DecidableEq, Repr

namespace LabelOp

/-- Does it to a label of a store. -/
def apply (op : LabelOp) (key : LabelKey) (store : ExpansionStore) :
    LabelAnswer × ExpansionStore :=
  match op with
  | .visit seed => (store.visit key seed).map .flag id
  | .toggle => (store.toggle key).map .flipped id
  | .setOpen isOpen => (store.setOpen key isOpen).map .known id

/-- The answer for a label with this entry. -/
def answer : LabelOp → Option LabelState → LabelAnswer
  | .visit seed, entry => .flag ((entry.map LabelState.isOpen).getD seed)
  | .toggle, entry => .flipped (entry.map fun state => !state.isOpen)
  | .setOpen _, entry => .known entry.isSome

/-- The entry afterwards. -/
def update (pass : Nat) : LabelOp → Option LabelState → Option LabelState
  | .visit seed, entry => some ⟨(entry.map LabelState.isOpen).getD seed, pass⟩
  | .toggle, entry => entry.map fun state => { state with isOpen := !state.isOpen }
  | .setOpen isOpen, entry => entry.map fun state => { state with isOpen }

variable (op : LabelOp) (key : LabelKey) (store : ExpansionStore)

/-- **The answer is read off the label's entry.** -/
theorem apply_fst : (op.apply key store).1 = op.answer store.entries[key]? := by
  -- an answer is a function of what the store has at the key
  cases op with
  | visit seed => rfl
  | toggle =>
    show LabelAnswer.flipped (store.toggle key).1 = _
    unfold ExpansionStore.toggle ExpansionStore.peek
    cases hentry : store.entries[key]? with
    | none => rfl
    | some state => rfl
  | setOpen isOpen =>
    show LabelAnswer.known (store.setOpen key isOpen).1 = _
    unfold ExpansionStore.setOpen
    cases hentry : store.entries[key]? with
    | none => rfl
    | some state => rfl

/-- No operation on a key changes the pass. -/
theorem pass_apply : (op.apply key store).2.pass = store.pass := by
  -- only the start of a pass moves the number on
  cases op with
  | visit seed => rfl
  | toggle =>
    show (store.toggle key).2.pass = _
    unfold ExpansionStore.toggle ExpansionStore.setOpen
    cases store.peek key with
    | none => rfl
    | some isOpen =>
      dsimp only
      cases store.entries[key]? with
      | none => rfl
      | some state => rfl
  | setOpen isOpen =>
    show (store.setOpen key isOpen).2.pass = _
    unfold ExpansionStore.setOpen
    cases store.entries[key]? with
    | none => rfl
    | some state => rfl

/-- **And it alone is written**, by what stood there and the pass. -/
theorem getElem?_apply (other : LabelKey) :
    (op.apply key store).2.entries[other]? =
      if key = other then op.update store.pass store.entries[key]? else store.entries[other]? := by
  cases op with
  | visit seed => exact store.getElem?_visit key other seed
  | toggle =>
    show (store.toggle key).2.entries[other]? = _
    unfold ExpansionStore.toggle ExpansionStore.peek
    cases hentry : store.entries[key]? with
    | none =>
      -- no flag to toggle: nothing is made for the key
      by_cases heq : key = other
      · subst heq
        rw [if_pos rfl]
        exact hentry
      · rw [if_neg heq]
        rfl
    | some state =>
      show (store.setOpen key (!state.isOpen)).2.entries[other]? = _
      rw [ExpansionStore.getElem?_setOpen, hentry]
      rfl
  | setOpen isOpen => exact store.getElem?_setOpen key other isOpen

end LabelOp

namespace ExpansionStore

/-- What happens to a store, and not only to one label of it. -/
inductive Op where
  | beginPass
  | endPass
  | label (key : LabelKey) (op : LabelOp)

/-- The store after one operation. -/
def act (store : ExpansionStore) : Op → ExpansionStore
  | .beginPass => store.beginPass
  | .endPass => store.endPass
  | .label key op => (op.apply key store).2

/-- The store after a list of operations. -/
def run (store : ExpansionStore) (ops : List Op) : ExpansionStore := ops.foldl act store

namespace Same

variable {first second : ExpansionStore}

/-- An operation has the same effect on stores that are the same. -/
theorem apply (h : first.Same second) (op : LabelOp) (key : LabelKey) :
    (op.apply key first).2.Same (op.apply key second).2 where
  pass_eq := by rw [op.pass_apply, op.pass_apply, h.pass_eq]
  entries_eq := by
    intro other
    rw [op.getElem?_apply, op.getElem?_apply, h.pass_eq, h.entries_eq, h.entries_eq]

/-- **Step.** No operation makes a difference between them. -/
theorem act (h : first.Same second) (op : Op) : (first.act op).Same (second.act op) := by
  cases op with
  | beginPass => exact h.beginPass
  | endPass => exact h.endPass
  | label key op => exact h.apply op key

/-- **Run.** Neither do many of them. -/
theorem run (h : first.Same second) (ops : List Op) : (first.run ops).Same (second.run ops) := by
  induction ops generalizing first second with
  | nil => exact h
  | cons op rest ih => exact ih (h.act op)

end Same

end ExpansionStore

namespace LabelOp

variable {key other : LabelKey}

/-- An operation on another label does not change the answer. -/
theorem apply_fst_of_ne (hne : key ≠ other) (op between : LabelOp) (store : ExpansionStore) :
    (op.apply key (between.apply other store).2).1 = (op.apply key store).1 := by
  rw [apply_fst, apply_fst, getElem?_apply, if_neg hne.symm]

/-- **Operations on different labels commute**: the stores are the same in either order. -/
theorem apply_comm (hne : key ≠ other) (first second : LabelOp) (store : ExpansionStore) :
    (second.apply other (first.apply key store).2).2.Same
      (first.apply key (second.apply other store).2).2 where
  pass_eq := by simp only [pass_apply]
  entries_eq := by
    intro label
    simp only [getElem?_apply, pass_apply, if_neg hne, if_neg hne.symm]
    -- A label is one of the two at most.
    by_cases hkey : key = label
    · subst hkey
      rw [if_neg hne.symm, if_pos rfl, if_pos rfl]
    · rw [if_neg hkey, if_neg hkey]

end LabelOp

/-! ### The whole of it -/

/-- **What is seen of a store is canonical.** A snapshot is strictly increasing in the order of
labels and has exactly the flags of the store; it is what sorting these flags gives, whatever order
they come in, and stores with the same flags have the same snapshot.  Two operations on different
labels answer the same in either order, and whatever is done to the store afterwards, the snapshot
is the same and so are the labels that the end of a pass drops. -/
theorem snapshot_canonical (store : ExpansionStore) :
    (store.snapshot.Pairwise fun a b => a.1.Before b.1) ∧
      (∀ key isOpen, (key, isOpen) ∈ store.snapshot ↔ store.peek key = some isOpen) ∧
      (∀ entries : List (LabelKey × Bool), entries.Perm store.snapshot →
        entries.mergeSort (fun a b => (compare a.1 b.1).isLE) = store.snapshot) ∧
      (∀ other : ExpansionStore, (∀ key, other.peek key = store.peek key) →
        other.snapshot = store.snapshot) ∧
      ∀ (first second : LabelOp) (key other : LabelKey), key ≠ other →
        let there := second.apply other (first.apply key store).2
        let back := first.apply key (second.apply other store).2
        (first.apply key store).1 = back.1 ∧ there.1 = (second.apply other store).1 ∧
          ∀ later : List ExpansionStore.Op,
            (there.2.run later).snapshot = (back.2.run later).snapshot ∧
              (there.2.run later).stale = (back.2.run later).stale := by
  refine ⟨store.pairwise_snapshot, ExpansionStore.mem_snapshot_iff store,
    fun _ => ExpansionStore.mergeSort_eq_snapshot, ?_, ?_⟩
  · intro other hpeek
    refine ExpansionStore.eq_snapshot_of_pairwise other.pairwise_snapshot fun key isOpen => ?_
    rw [ExpansionStore.mem_snapshot_iff, hpeek]
  · intro first second key other hne there back
    refine ⟨(LabelOp.apply_fst_of_ne hne first second store).symm,
      LabelOp.apply_fst_of_ne hne.symm second first store, fun later => ?_⟩
    -- the two stores agree at every key, and no later operation tells them apart
    have hsame : (there.2.run later).Same (back.2.run later) :=
      (LabelOp.apply_comm hne first second store).run later
    exact ⟨hsame.snapshot_eq, hsame.stale_eq⟩

/-- In a new pass the body is closed and the list in its list shown, or the other way round: either
way the pass drops the root and the body, which were not shown, and not the list. -/
theorem snapshot_canonical_sample :
    let body : LabelKey := ⟨.group, [.field "body"]⟩
    let list : LabelKey := ⟨.group, [.field "body", .index 1, .index 0]⟩
    let store := sampleStore.beginPass
    let there := (LabelOp.visit true).apply list (LabelOp.toggle.apply body store).2
    let back := LabelOp.toggle.apply body ((LabelOp.visit true).apply list store).2
    body ≠ list ∧ body.Before list ∧ (LabelOp.toggle.apply body store).1 = back.1 ∧
      back.1 = .flipped (some false) ∧ there.2.snapshot = back.2.snapshot ∧
      back.2.snapshot = [(⟨.node, []⟩, true), (body, false), (list, true)] ∧
      there.2.stale = back.2.stale ∧ back.2.stale = [⟨.node, []⟩, body] := by
  intro body list store there back
  have hne : body ≠ list := by decide
  obtain ⟨-, -, -, -, hcomm⟩ := snapshot_canonical store
  -- one key is known and the other is new to the store
  obtain ⟨hanswer, -, hlater⟩ := hcomm .toggle (.visit true) body list hne
  obtain ⟨hsnapshot, hstale⟩ := hlater []
  refine ⟨hne, .paths .group (.cons .nil), hanswer, ?_, hsnapshot, ?_, hstale, ?_⟩
  · unfold back store
    cbv
  · unfold back store
    cbv
  · unfold back store
    cbv

end TreeOutline
