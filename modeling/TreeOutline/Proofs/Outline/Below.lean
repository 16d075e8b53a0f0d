import TreeOutline.Proofs.Outline.Mount

namespace TreeOutline

/-!
# What rendering at a path touches

Rendering a value, or a field of one, has the labels at its path and below it to do with, and no
others.

* `view_below`, `viewBody_below` — the labels that can be opened or closed in the view of a value
  stand at its path or below it.
* `ExpansionStore.TouchedBelow` — all that may differ between a store and a later one when only
  labels below a path were shown: `TouchedBelow.visit` for one label, `TouchedBelow.visitAll` for
  many.
* `render_touchedBelow`, `renderGroup_touchedBelow` — **the frame**: what rendering writes.
* `render_fst_congr`, `renderGroup_fst_congr` — **the footprint**: what rendering reads.
* `render_local` — both together.
-/

/-! ### The labels of a view stand below its path -/

/-- The labels in a body move with it. -/
theorem Body.toggleKeys_mount (above : Path) (deeper : Nat) (body : Body) (own : Path) :
    (body.mount above deeper).toggleKeys (above ++ own) =
      (body.toggleKeys own).map (·.under above) := by
  have h := TreeOutline.toggleKeys_mount above deeper (.fragment [.mk own 0 "" body])
  simpa only [Visual.mount, mountGroups, Group.mount, Visual.toggleKeys, groupToggleKeys,
    Group.toggleKeys, List.append_nil] using h

section

variable {rules : DisplayRules} {flags : Flags} {value : Value} {depth : Nat} {key : LabelKey}

/-- The labels in the view of a value stand at its path or below it, since the view is one of the
root that was moved there. -/
theorem view_below {path : Path} (h : key ∈ (view rules flags value path depth).toggleKeys) :
    path <+: key.path := by
  have hmount : view rules flags value (path ++ []) (depth + 0) = _ := view_mount value [] 0
  rw [List.append_nil, Nat.add_zero] at hmount
  rw [hmount, toggleKeys_mount] at h
  obtain ⟨inner, -, rfl⟩ := List.mem_map.1 h
  exact List.prefix_append path inner.path

/-- So do those below a group. -/
theorem viewBody_below {own : Path}
    (h : key ∈ (viewBody rules flags value own depth).toggleKeys own) : own <+: key.path := by
  -- the group rendered on its own and then mounted below its path
  have hmount : viewBody rules flags value (own ++ []) (depth + 0) = _ := viewBody_mount value [] 0
  have hkeys := Body.toggleKeys_mount own depth
    (viewBody (rules.within own) (flags.within own) value [] 0) []
  rw [← hmount, List.append_nil, Nat.add_zero] at hkeys
  rw [hkeys] at h
  obtain ⟨inner, -, rfl⟩ := List.mem_map.1 h
  exact List.prefix_append own inner.path

end

/-! ### What rendering writes -/

namespace ExpansionStore

/-- Between two stores only labels at a path and below it were shown.  No other entry differs at
all; no flag is another one and none is gone; an entry that differs is there, and was seen in the
pass of both. -/
structure TouchedBelow (path : Path) (before after : ExpansionStore) : Prop where
  pass_eq : after.pass = before.pass
  elsewhere : ∀ key : LabelKey, ¬path <+: key.path → after.entries[key]? = before.entries[key]?
  kept : ∀ key isOpen, before.peek key = some isOpen → after.peek key = some isOpen
  refreshed : ∀ key : LabelKey, after.entries[key]? ≠ before.entries[key]? →
    ∃ isOpen, after.entries[key]? = some ⟨isOpen, before.pass⟩

namespace TouchedBelow

variable {path : Path} {first second third store : ExpansionStore}

theorem refl (path : Path) (store : ExpansionStore) : store.TouchedBelow path store where
  pass_eq := rfl
  elsewhere _ _ := rfl
  kept _ _ h := h
  refreshed _ h := absurd rfl h

/-- Two steps that touch entries only below a path do so together. -/
theorem trans (h : first.TouchedBelow path second) (h' : second.TouchedBelow path third) :
    first.TouchedBelow path third where
  pass_eq := h'.pass_eq.trans h.pass_eq
  elsewhere key hkey := (h'.elsewhere key hkey).trans (h.elsewhere key hkey)
  kept key isOpen hpeek := h'.kept key isOpen (h.kept key isOpen hpeek)
  refreshed := by
    intro key hne
    -- The entry as it is at the end was written by the later of the two that changed it.
    by_cases hlater : third.entries[key]? = second.entries[key]?
    · rw [hlater] at hne ⊢
      exact h.refreshed key hne
    · rw [← h.pass_eq]
      exact h'.refreshed key hlater

end TouchedBelow

/-- **Step.** Showing one label at the path or below it touches nothing else. -/
theorem touchedBelow_visit {path : Path} {key : LabelKey} (hkey : path <+: key.path)
    (store : ExpansionStore) (seed : Bool) :
    store.TouchedBelow path (store.visit key seed).2 where
  pass_eq := rfl
  elsewhere := by
    intro other hother
    have hne : key ≠ other := by
      rintro rfl
      exact hother hkey
    rw [getElem?_visit, if_neg hne]
  kept := by
    intro other isOpen hpeek
    rw [peek_visit]
    -- a flag that is there outlives the visit, also at the visited key
    by_cases heq : key = other
    · subst heq
      rw [if_pos rfl, hpeek]
      rfl
    · rw [if_neg heq]
      exact hpeek
  refreshed := by
    intro other hne
    rw [getElem?_visit] at hne ⊢
    by_cases heq : key = other
    · rw [if_pos heq]
      exact ⟨_, rfl⟩
    · rw [if_neg heq] at hne
      exact absurd rfl hne

/-- **Run.** So does showing many of them. -/
theorem touchedBelow_visitAll {path : Path} (rules : DisplayRules) {keys : List LabelKey}
    (hkeys : ∀ key ∈ keys, path <+: key.path) (store : ExpansionStore) :
    store.TouchedBelow path (store.visitAll rules keys) := by
  -- one visit after the other, each of them with the store the last one left
  induction keys generalizing store with
  | nil => exact .refl path store
  | cons key keys ih =>
    rw [visitAll_cons]
    have hfirst := touchedBelow_visit (hkeys key List.mem_cons_self) store
      (rules.startsOpen key.path)
    exact hfirst.trans (ih (fun other hother => hkeys other (List.mem_cons_of_mem key hother)) _)

end ExpansionStore

section

variable (rules : DisplayRules) (depth : Nat) (store : ExpansionStore)

/-- **Frame.** Rendering a value touches the labels at its path and below it only. -/
theorem render_touchedBelow (value : Value) (path : Path) :
    store.TouchedBelow path (render rules value path depth store).2 := by
  rw [render_eq]
  exact ExpansionStore.touchedBelow_visitAll rules (fun _ hkey => view_below hkey) store

/-- Rendering a field touches the labels at the path of the field and below it only. -/
theorem renderGroup_touchedBelow (name : String) (value : Option Value) (path : Path) :
    store.TouchedBelow (path.field name) (renderGroup rules name value path depth store).2 := by
  cases value with
  | none => exact .refl _ store
  | some value =>
    simp only [renderGroup, renderBody_eq]
    exact ExpansionStore.touchedBelow_visitAll rules (fun _ hkey => viewBody_below hkey) store

/-! ### What rendering reads -/

variable {rules depth store} {other : ExpansionStore}

/-- Stores with the same flags below a path are read alike there. -/
theorem ExpansionStore.flags_eq_below {path : Path}
    (h : ∀ key : LabelKey, path <+: key.path → other.peek key = store.peek key) {key : LabelKey}
    (hkey : path <+: key.path) : other.flags rules key = store.flags rules key := by
  rw [flags, flags, h key hkey]

/-- **Footprint.** What is rendered at a path depends on the flags at the path and below it only. -/
theorem render_fst_congr {value : Value} {path : Path}
    (h : ∀ key : LabelKey, path <+: key.path → other.peek key = store.peek key) :
    (render rules value path depth other).1 = (render rules value path depth store).1 := by
  rw [render_eq, render_eq]
  exact view_congr fun key hkey => ExpansionStore.flags_eq_below h (view_below hkey)

/-- What is rendered of a field depends on the flags at its path and below it only. -/
theorem renderGroup_fst_congr {name : String} {value : Option Value} {path : Path}
    (h : ∀ key : LabelKey, path.field name <+: key.path → other.peek key = store.peek key) :
    (renderGroup rules name value path depth other).1 =
      (renderGroup rules name value path depth store).1 := by
  cases value with
  | none => rfl
  | some value =>
    simp only [renderGroup, renderBody_eq]
    rw [viewBody_congr fun key hkey => ExpansionStore.flags_eq_below h (viewBody_below hkey)]

end

/-- **Rendering is local.** Whatever the rules and the store, rendering a value at a path touches
the labels at the path and below it only, and shows the same for every other store with the same
flags there; likewise for a field of the value at a path and the path of the field. -/
theorem render_local (rules : DisplayRules) (path : Path) (depth : Nat) (store : ExpansionStore) :
    (∀ value : Value,
      store.TouchedBelow path (render rules value path depth store).2 ∧
        ∀ other : ExpansionStore,
          (∀ key : LabelKey, path <+: key.path → other.peek key = store.peek key) →
          (render rules value path depth other).1 = (render rules value path depth store).1) ∧
      ∀ (name : String) (value : Option Value),
        store.TouchedBelow (path.field name) (renderGroup rules name value path depth store).2 ∧
          ∀ other : ExpansionStore,
            (∀ key : LabelKey, path.field name <+: key.path →
              other.peek key = store.peek key) →
            (renderGroup rules name value path depth other).1 =
              (renderGroup rules name value path depth store).1 :=
  ⟨fun value => ⟨render_touchedBelow rules depth store value path,
      fun _ h => render_fst_congr h⟩,
    fun name value => ⟨renderGroup_touchedBelow rules depth store name value path,
      fun _ h => renderGroup_fst_congr h⟩⟩

/-- The block in the field `main` looks the same whether the root outside is open or closed, and
either way the flag of the root stays what it was. -/
theorem render_local_main :
    let path : Path := [.field "main"]
    let other := (mainStore.toggle ⟨.node, []⟩).2
    other.snapshot ≠ mainStore.snapshot ∧
      (∀ key : LabelKey, path <+: key.path → other.peek key = mainStore.peek key) ∧
      (render mainRules sampleTree path 3 other).1 =
        (render mainRules sampleTree path 3 mainStore).1 ∧
      (render mainRules sampleTree path 3 other).2.peek ⟨.node, []⟩ = some true ∧
      (render mainRules sampleTree path 3 mainStore).2.peek ⟨.node, []⟩ = some false := by
  intro path other
  have hagree : ∀ key : LabelKey, path <+: key.path → other.peek key = mainStore.peek key := by
    intro key hkey
    -- the root is not below the path, so its flag is of no account
    have hne : (⟨.node, []⟩ : LabelKey) ≠ key := by
      rintro rfl
      simp [path] at hkey
    rw [ExpansionStore.peek_toggle, if_neg hne]
  obtain ⟨htouched, hshown⟩ := (render_local mainRules path 3 mainStore).1 sampleTree
  obtain ⟨htouched', -⟩ := (render_local mainRules path 3 other).1 sampleTree
  refine ⟨?_, hagree, hshown other hagree, htouched'.kept _ _ ?_, htouched.kept _ _ ?_⟩
  · unfold other
    cbv
    decide
  · unfold other
    cbv
  · cbv

end TreeOutline
