import Mathlib
import TreeOutline.Proofs.Outline.View

namespace TreeOutline

/-!
# A whole pass over a tree

Rendering a root begins a pass, renders, and drops what was not shown.

* `renderRoot_eq` — the pass shows the view of the store's flags and sweeps the store down to the
  labels of that view.
* `ExpansionStore.Reachable` — the stores that some sequence of operations leads to;
  `Reachable.seenBounded` says that none of them holds an entry of a pass to come.
* `ExpansionStore.Settled` — a store as a pass over a tree leaves it; another pass over the tree
  changes nothing (`Settled.snapshot_renderRoot`).
* `renderRoot_refines_viewRoot` — the whole of it: what is shown, what is kept, and that neither
  depends on anything but the tree, the rules and the flags before.
-/

variable {rules : DisplayRules} {tree : Option Value} {store : ExpansionStore}

/-- A pass shows the view of the flags before it, and visits the labels of this view between its
begin and its end. -/
theorem renderRoot_eq (rules : DisplayRules) (tree : Option Value) (store : ExpansionStore) :
    renderRoot rules tree store =
      (viewRoot rules (store.flags rules) tree,
        (store.beginPass.visitAll rules
          (viewRoot rules (store.flags rules) tree).toggleKeys).endPass) := by
  cases tree with
  | none => rfl
  | some value =>
    simp only [renderRoot, viewRoot, render_eq]
    rfl

/-- **Congruence.** Flags that agree on the labels in the view of a tree give the same view. -/
theorem viewRoot_congr {flags other : Flags}
    (h : ∀ key ∈ (viewRoot rules flags tree).toggleKeys, other key = flags key) :
    viewRoot rules other tree = viewRoot rules flags tree := by
  cases tree with
  | none => rfl
  | some value => exact view_congr h

/-! ### Stores that operations lead to -/

namespace ExpansionStore

/-- The stores that some sequence of operations leads to. -/
inductive Reachable : ExpansionStore → Prop where
  | empty : Reachable .empty
  | beginPass {store : ExpansionStore} : Reachable store → Reachable store.beginPass
  | visit {store : ExpansionStore} (key : LabelKey) (seed : Bool) :
      Reachable store → Reachable (store.visit key seed).2
  | toggle {store : ExpansionStore} (key : LabelKey) :
      Reachable store → Reachable (store.toggle key).2
  | setOpen {store : ExpansionStore} (key : LabelKey) (isOpen : Bool) :
      Reachable store → Reachable (store.setOpen key isOpen).2
  | endPass {store : ExpansionStore} : Reachable store → Reachable store.endPass
  | render {store : ExpansionStore} (rules : DisplayRules) (value : Value) (path : Path)
      (depth : Nat) : Reachable store → Reachable (render rules value path depth store).2
  | renderGroup {store : ExpansionStore} (rules : DisplayRules) (name : String)
      (value : Option Value) (path : Path) (depth : Nat) :
      Reachable store → Reachable (renderGroup rules name value path depth store).2
  | renderRoot {store : ExpansionStore} (rules : DisplayRules) (tree : Option Value) :
      Reachable store → Reachable (renderRoot rules tree store).2

end ExpansionStore

/-- A field is rendered by visits alone. -/
theorem renderGroup_snd (rules : DisplayRules) (name : String) (value : Option Value) (path : Path)
    (depth : Nat) (store : ExpansionStore) :
    ∃ keys, (renderGroup rules name value path depth store).2 = store.visitAll rules keys := by
  cases value with
  | none => exact ⟨[], rfl⟩
  | some value =>
    refine ⟨(viewBody rules (store.flags rules) value (path.field name) depth).toggleKeys
      (path.field name), ?_⟩
    simp only [renderGroup, renderBody_eq]

/-- **Invariant.** No operation leads to a store with an entry of a pass to come. -/
theorem ExpansionStore.Reachable.seenBounded (h : store.Reachable) : store.SeenBounded := by
  induction h with
  | empty => exact .empty
  | beginPass _ ih => exact ih.beginPass
  | visit key seed _ ih => exact ih.visit key seed
  | toggle key _ ih => exact ih.toggle key
  | setOpen key isOpen _ ih => exact ih.setOpen key isOpen
  | endPass _ ih => exact ih.endPass
  -- a rendering is a list of visits, and the pass closes behind those of the root
  | render rules value path depth _ ih =>
    rw [render_eq]
    exact ih.visitAll rules _
  | renderGroup rules name value path depth _ ih =>
    obtain ⟨keys, hkeys⟩ := renderGroup_snd rules name value path depth _
    rw [hkeys]
    exact ih.visitAll rules keys
  | renderRoot rules tree _ ih =>
    rw [renderRoot_eq]
    exact (ih.beginPass.visitAll rules _).endPass

/-! ### What a pass leaves behind -/

/-- A pass shows the view of the flags from before it: what it stores does not change what it shows.
-/
theorem renderRoot_fst (rules : DisplayRules) (tree : Option Value) (store : ExpansionStore) :
    (renderRoot rules tree store).1 = viewRoot rules (store.flags rules) tree := by
  rw [renderRoot_eq]

/-- After a pass exactly the labels of the view that can be opened or closed have a flag, the one
that the view shows. -/
theorem peek_renderRoot (h : store.SeenBounded) (key : LabelKey) :
    (renderRoot rules tree store).2.peek key =
      if key ∈ (viewRoot rules (store.flags rules) tree).toggleKeys then
        some (store.flags rules key)
      else none := by
  rw [renderRoot_eq]
  exact ExpansionStore.peek_sweep h rules _ key

/-- The flags that the next pass works with: those shown now, and the seed everywhere else. -/
theorem flags_renderRoot (h : store.SeenBounded) (key : LabelKey) :
    (renderRoot rules tree store).2.flags rules key =
      if key ∈ (viewRoot rules (store.flags rules) tree).toggleKeys then store.flags rules key
      else rules.startsOpen key.path := by
  rw [ExpansionStore.flags, peek_renderRoot h]
  by_cases hin : key ∈ (viewRoot rules (store.flags rules) tree).toggleKeys
  · rw [if_pos hin, if_pos hin]; rfl
  · rw [if_neg hin, if_neg hin]; rfl

/-- The next pass shows the same. -/
theorem viewRoot_flags_renderRoot (h : store.SeenBounded) :
    viewRoot rules ((renderRoot rules tree store).2.flags rules) tree =
      viewRoot rules (store.flags rules) tree := by
  -- The labels whose flags were dropped are those that the view does not look at.
  refine viewRoot_congr fun key hkey => ?_
  rw [flags_renderRoot h, if_pos hkey]

namespace ExpansionStore

/-- The store is as a pass over the tree leaves it: the labels that have a flag are those of the
view that can be opened or closed. -/
structure Settled (rules : DisplayRules) (tree : Option Value) (store : ExpansionStore) :
    Prop where
  seenBounded : store.SeenBounded
  peek_eq : ∀ key, store.peek key =
    if key ∈ (viewRoot rules (store.flags rules) tree).toggleKeys then
      some (store.flags rules key)
    else none

/-- **A pass settles the store.** -/
theorem SeenBounded.settled (h : store.SeenBounded) (rules : DisplayRules) (tree : Option Value) :
    (renderRoot rules tree store).2.Settled rules tree where
  seenBounded := by
    rw [renderRoot_eq]
    exact (h.beginPass.visitAll rules _).endPass
  peek_eq := by
    intro key
    rw [peek_renderRoot h, viewRoot_flags_renderRoot h]
    -- after a pass exactly the rendered keys are left, with the flags they were shown by
    by_cases hin : key ∈ (viewRoot rules (store.flags rules) tree).toggleKeys
    · rw [if_pos hin, if_pos hin, flags_renderRoot h, if_pos hin]
    · rw [if_neg hin, if_neg hin]

namespace Settled

/-- A label that is not shown, or has no toggle, starts again from what the rules say. -/
theorem flags_of_not_mem (h : store.Settled rules tree) {key : LabelKey}
    (hkey : key ∉ (viewRoot rules (store.flags rules) tree).toggleKeys) :
    store.flags rules key = rules.startsOpen key.path := by
  rw [flags, h.peek_eq, if_neg hkey]
  rfl

/-- A label that is shown with a toggle has a flag. -/
theorem peek_of_mem (h : store.Settled rules tree) {key : LabelKey}
    (hkey : key ∈ (viewRoot rules (store.flags rules) tree).toggleKeys) :
    store.peek key = some (store.flags rules key) := by
  rw [h.peek_eq, if_pos hkey]

/-- Another pass over a settled store keeps its flags. -/
theorem peek_renderRoot (h : store.Settled rules tree) (key : LabelKey) :
    (renderRoot rules tree store).2.peek key = store.peek key := by
  rw [TreeOutline.peek_renderRoot h.seenBounded, h.peek_eq]

/-- **A pass over a settled store changes nothing** that a snapshot shows. -/
theorem snapshot_renderRoot (h : store.Settled rules tree) :
    (renderRoot rules tree store).2.snapshot = store.snapshot :=
  snapshot_eq_iff.2 h.peek_renderRoot

end Settled

end ExpansionStore

/-- **A second pass changes nothing.** It shows what the first one showed and leaves the snapshot
that the first one left. -/
theorem renderRoot_again (h : store.SeenBounded) :
    (renderRoot rules tree (renderRoot rules tree store).2).1 = (renderRoot rules tree store).1 ∧
      (renderRoot rules tree (renderRoot rules tree store).2).2.snapshot =
        (renderRoot rules tree store).2.snapshot := by
  refine ⟨?_, (h.settled rules tree).snapshot_renderRoot⟩
  rw [renderRoot_fst, renderRoot_fst, viewRoot_flags_renderRoot h]

/-- Two stores with the same flags show the same and are left with the same snapshot. -/
theorem renderRoot_of_peek_eq {first second : ExpansionStore} (hfirst : first.SeenBounded)
    (hsecond : second.SeenBounded) (hpeek : ∀ key, first.peek key = second.peek key) :
    (renderRoot rules tree first).1 = (renderRoot rules tree second).1 ∧
      (renderRoot rules tree first).2.snapshot = (renderRoot rules tree second).2.snapshot := by
  -- a rendering asks the store for nothing but flags
  have hflags : first.flags rules = second.flags rules :=
    ExpansionStore.flags_eq_of_peek rules hpeek
  constructor
  · rw [renderRoot_fst, renderRoot_fst, hflags]
  · rw [ExpansionStore.snapshot_eq_iff]
    intro key
    rw [peek_renderRoot hfirst, peek_renderRoot hsecond, hflags]

/-- **Rendering refines the view.** A pass over a reachable store shows exactly the view of the
flags before it, leaves a flag for precisely the labels of that view that can be opened or closed,
depends on the store through its snapshot alone, and repeated changes nothing. -/
theorem renderRoot_refines_viewRoot (rules : DisplayRules) (tree : Option Value)
    (reachable : store.Reachable) :
    (renderRoot rules tree store).1 = viewRoot rules (store.flags rules) tree ∧
      (∀ key, (renderRoot rules tree store).2.peek key =
        if key ∈ (renderRoot rules tree store).1.toggleKeys then some (store.flags rules key)
        else none) ∧
      (∀ other : ExpansionStore, other.Reachable → other.snapshot = store.snapshot →
        (renderRoot rules tree other).1 = (renderRoot rules tree store).1 ∧
          (renderRoot rules tree other).2.snapshot = (renderRoot rules tree store).2.snapshot) ∧
      (renderRoot rules tree (renderRoot rules tree store).2).1 =
        (renderRoot rules tree store).1 ∧
      (renderRoot rules tree (renderRoot rules tree store).2).2.snapshot =
        (renderRoot rules tree store).2.snapshot := by
  -- no entry is newer than the store's own pass, so the next pass tells old from new
  have hseen : store.SeenBounded := reachable.seenBounded
  refine ⟨renderRoot_fst rules tree store, ?_, ?_, renderRoot_again hseen⟩
  · intro key
    rw [renderRoot_fst]
    exact peek_renderRoot hseen key
  · intro other hother hsnapshot
    exact renderRoot_of_peek_eq hother.seenBounded hseen
      (ExpansionStore.snapshot_eq_iff.1 hsnapshot)

/-! ### A tree to look at -/

/-- A block with a statement that cannot be opened, and a list in a list. -/
def sampleTree : Value :=
  .map [("type", .str "Block"),
    ("body", .list [.map [("type", .str "Empty")], .list [.list [.int 1]]])]

/-- The tree was shown, and its body opened. -/
def sampleStore : ExpansionStore :=
  ((renderRoot .standard (some sampleTree) .empty).2.toggle ⟨.group, [.field "body"]⟩).2

/-- The sample store comes from passes and answers of the workbench. -/
theorem sampleStore_reachable : sampleStore.Reachable :=
  (ExpansionStore.Reachable.empty.renderRoot .standard (some sampleTree)).toggle _

/-- After the body was opened, its rows are shown: the inner list keeps what the rules say of it.
A store in its next pass is another store with the same snapshot. -/
theorem renderRoot_refines_viewRoot_opened :
    sampleStore.Reachable ∧
      (renderRoot .standard (some sampleTree) sampleStore).1 =
        viewRoot .standard (sampleStore.flags .standard) (some sampleTree) ∧
      (renderRoot .standard (some sampleTree) sampleStore).2.peek
        ⟨.group, [.field "body", .index 1, .index 0]⟩ = some false ∧
      (renderRoot .standard (some sampleTree) sampleStore).2.peek ⟨.node, [.field "body"]⟩ = none ∧
      sampleStore.beginPass.pass ≠ sampleStore.pass ∧
      (renderRoot .standard (some sampleTree) sampleStore.beginPass).1 =
        (renderRoot .standard (some sampleTree) sampleStore).1 := by
  obtain ⟨hview, hpeek, hother, -⟩ :=
    renderRoot_refines_viewRoot .standard (some sampleTree) sampleStore_reachable
  refine ⟨sampleStore_reachable, hview, ?_, ?_, by cbv, ?_⟩
  · rw [hpeek]; cbv
  · rw [hpeek]; cbv
  · exact (hother _ sampleStore_reachable.beginPass rfl).1

end TreeOutline
