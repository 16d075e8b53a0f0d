import TreeOutline.Outline.Render
import TreeOutline.Proofs.Outline.Flags

namespace TreeOutline

/-!
# Rendering without a store

* `view` — what a value looks like under given flags: a recursion that reads the flags and
  never touches a store.
* `Visual.toggleKeys` — the keys of the labels in a visual that can be opened or closed, from top
  to bottom.
* `render_eq` — **refinement**: rendering with a store in hand shows the view of the store's flags,
  and its whole effect is a visit to each of these labels in turn.
* `view_congr` — a view depends only on the flags of the labels in it.
-/

/-! ### The view of a value -/

/-- A map at `path`, given the groups of those fields that are shown. -/
def viewMap (rules : DisplayRules) (flags : Flags) (fields : List (String × Value)) (path : Path)
    (depth : Nat) (groups : (String → Value → Bool) → List Group) : Visual :=
  match rules.tagKeys.tagOf fields with
  | none => .fragment (groups fun _ _ => true)
  | some kind =>
    let toggle : Toggle :=
      if fields.any fun (name, value) => rules.showsField name value then
        .ofOpen (flags ⟨.node, path⟩)
      else .static
    .node path depth kind toggle (rules.isActive kind) (rules.snippetOf fields)
      (if toggle.isOpen then groups rules.showsField else [])

mutual

/-- One value at `path`. -/
def view (rules : DisplayRules) (flags : Flags) : Value → Path → (depth : Nat) → Visual
  | .map fields, path, depth =>
    viewMap rules flags fields path depth fun shown =>
      viewFields rules flags fields shown path (depth + 1)
  | .list items, path, depth => .fragment (viewElements rules flags items path 0 (depth + 1))
  | _, _, _ => .empty

/-- What a field with this value shows under its name, for the group at `own`. -/
def viewBody (rules : DisplayRules) (flags : Flags) : Value → (own : Path) → (depth : Nat) → Body
  | .list items, own, depth =>
    if items.isEmpty then .empty
    else
      .children (flags ⟨.group, own⟩) items.length
        (if flags ⟨.group, own⟩ then viewItems rules flags items own 0 (depth + 1) else [])
  | .map fields, own, depth =>
    .children (flags ⟨.group, own⟩) 1
      (if flags ⟨.group, own⟩ then
        [viewMap rules flags fields own (depth + 1) fun shown =>
          viewFields rules flags fields shown own (depth + 2)]
      else [])
  | scalar, _, _ => .literal (literal (some scalar))

/-- The groups of the fields that are shown. -/
def viewFields (rules : DisplayRules) (flags : Flags) :
    List (String × Value) → (shown : String → Value → Bool) → Path → (depth : Nat) → List Group
  | [], _, _, _ => []
  | (name, value) :: rest, shown, path, depth =>
    if shown name value then
      .mk (path.field name) depth name (viewBody rules flags value (path.field name) depth) ::
        viewFields rules flags rest shown path depth
    else viewFields rules flags rest shown path depth

/-- The groups of the items of a list that stands in place of a node, from position `i` on. -/
def viewElements (rules : DisplayRules) (flags : Flags) :
    List Value → Path → (i depth : Nat) → List Group
  | [], _, _, _ => []
  | value :: rest, path, i, depth =>
    .mk (path.index i) depth (toString i) (viewBody rules flags value (path.index i) depth) ::
      viewElements rules flags rest path (i + 1) depth

/-- The items of the group at `own` from position `i` on. -/
def viewItems (rules : DisplayRules) (flags : Flags) :
    List Value → (own : Path) → (i depth : Nat) → List Visual
  | [], _, _, _ => []
  | value :: rest, own, i, depth =>
    view rules flags value (own.index i) depth :: viewItems rules flags rest own (i + 1) depth

end

/-- A whole tree, or nothing when there is none. -/
def viewRoot (rules : DisplayRules) (flags : Flags) : Option Value → Visual
  | some value => view rules flags value [] 0
  | none => .empty

/-! ### The labels that can be opened or closed -/

mutual

/-- The keys of the labels in a visual that can be opened or closed. -/
def Visual.toggleKeys : Visual → List LabelKey
  | .empty => []
  | .node path _ _ toggle _ _ groups =>
    (if toggle.isToggleable then [⟨.node, path⟩] else []) ++ groupToggleKeys groups
  | .fragment groups => groupToggleKeys groups

/-- The keys in a group. -/
def Group.toggleKeys : Group → List LabelKey
  | .mk path _ _ body => body.toggleKeys path

/-- The keys in the group at `own` with this body; a group that has children can be opened or
closed itself. -/
def Body.toggleKeys : Body → (own : Path) → List LabelKey
  | .literal _, _ => []
  | .empty, _ => []
  | .children _ _ items, own => ⟨.group, own⟩ :: itemToggleKeys items

/-- The keys in groups one after the other. -/
def groupToggleKeys : List Group → List LabelKey
  | [] => []
  | group :: rest => group.toggleKeys ++ groupToggleKeys rest

/-- The keys in items one after the other. -/
def itemToggleKeys : List Visual → List LabelKey
  | [] => []
  | visual :: rest => visual.toggleKeys ++ itemToggleKeys rest

end

/-! ### Rendering refines the view -/

/-- Looking a label up is one visit of the pass. -/
theorem labelOpen_eq (rules : DisplayRules) (role : Role) (path : Path) (store : ExpansionStore) :
    labelOpen rules role path store =
      (store.flags rules ⟨role, path⟩, store.visitAll rules [⟨role, path⟩]) := rfl

/-- A map is rendered as its view, provided its groups are, whatever labels were visited before
them. -/
theorem renderMap_eq (rules : DisplayRules) (fields : List (String × Value)) (path : Path)
    (depth : Nat) (store : ExpansionStore)
    (rendered : (String → Value → Bool) → ExpansionStore → List Group × ExpansionStore)
    (groups : (String → Value → Bool) → List Group)
    (hgroups : ∀ shown visited,
      rendered shown (store.visitAll rules visited) =
        (groups shown,
          (store.visitAll rules visited).visitAll rules (groupToggleKeys (groups shown)))) :
    renderMap rules fields path depth rendered store =
      (viewMap rules (store.flags rules) fields path depth groups,
        store.visitAll rules
          (viewMap rules (store.flags rules) fields path depth groups).toggleKeys) := by
  unfold renderMap viewMap
  cases rules.tagKeys.tagOf fields with
  | none =>
    -- A fragment has no label, so nothing was visited before its groups.
    have h := hgroups (fun _ _ => true) []
    rw [ExpansionStore.visitAll_nil] at h
    simp only [h, Visual.toggleKeys]
  | some kind =>
    by_cases hany : (fields.any fun (name, value) => rules.showsField name value) = true
    · rw [if_pos hany]
      simp only [if_pos hany, labelOpen_eq]
      -- The groups are rendered after the visit of the node's own label.
      have h := hgroups rules.showsField [⟨.node, path⟩]
      cases store.flags rules ⟨.node, path⟩ with
      | true =>
        simp only [h, ← ExpansionStore.visitAll_append]
        rfl
      | false => rfl
    · -- A node without visible fields asks for no flag.
      rw [if_neg hany]
      simp only [if_neg hany]
      rfl

mutual

/-- **Refinement.** Rendering a value shows its view under the flags of the store, and visits the
labels of this view that can be opened or closed. -/
theorem render_eq (rules : DisplayRules) (value : Value) (path : Path) (depth : Nat)
    (store : ExpansionStore) :
    render rules value path depth store =
      (view rules (store.flags rules) value path depth,
        store.visitAll rules (view rules (store.flags rules) value path depth).toggleKeys) := by
  -- the visual and the visits at once: a recursive call passes its store on
  cases value with
  | map fields =>
    simp only [render, view]
    refine renderMap_eq rules fields path depth store _ _ fun shown visited => ?_
    rw [renderFields_eq, ExpansionStore.flags_visitAll]
  | list items =>
    simp only [render, view, renderElements_eq, Visual.toggleKeys]
  | null | bool b | int n | float x | str s => rfl

/-- Rendering a body is viewing it by the flags there are and then visiting what can be toggled. -/
theorem renderBody_eq (rules : DisplayRules) (value : Value) (own : Path) (depth : Nat)
    (store : ExpansionStore) :
    renderBody rules value own depth store =
      (viewBody rules (store.flags rules) value own depth,
        store.visitAll rules
          ((viewBody rules (store.flags rules) value own depth).toggleKeys own)) := by
  cases value with
  | list items =>
    cases items with
    | nil => rfl
    | cons item rest =>
      simp only [renderBody, viewBody, labelOpen_eq, List.isEmpty_cons, Bool.false_eq_true,
        if_false]
      cases store.flags rules ⟨.group, own⟩ with
      | true =>
        simp only [render_eq, renderItems_eq, ExpansionStore.flags_visitAll,
          ← ExpansionStore.visitAll_append]
        rfl
      | false => rfl
  | map fields =>
    simp only [renderBody, viewBody, labelOpen_eq]
    cases store.flags rules ⟨.group, own⟩ with
    | true =>
      -- A node in a group has the group's path; it is rendered after the group's own visit.
      have h := renderMap_eq rules fields own (depth + 1)
        (store.visitAll rules [⟨.group, own⟩])
        (fun shown store => renderFields rules fields shown own (depth + 2) store)
        (fun shown => viewFields rules (store.flags rules) fields shown own (depth + 2))
        (fun shown visited => by
          rw [renderFields_eq, ExpansionStore.flags_visitAll, ExpansionStore.flags_visitAll])
      simp only [h, ExpansionStore.flags_visitAll, ← ExpansionStore.visitAll_append]
      simp [Body.toggleKeys, itemToggleKeys]
    | false => rfl
  | null | bool b | int n | float x | str s => rfl

/-- The case of the fields of an object. -/
theorem renderFields_eq (rules : DisplayRules) (fields : List (String × Value))
    (shown : String → Value → Bool) (path : Path) (depth : Nat) (store : ExpansionStore) :
    renderFields rules fields shown path depth store =
      (viewFields rules (store.flags rules) fields shown path depth,
        store.visitAll rules
          (groupToggleKeys (viewFields rules (store.flags rules) fields shown path depth))) := by
  match fields with
  | [] => rfl
  | (name, value) :: rest =>
    simp only [renderFields, viewFields]
    by_cases hshown : shown name value = true
    · rw [if_pos hshown, if_pos hshown]
      simp only [renderBody_eq, renderFields_eq, ExpansionStore.flags_visitAll, groupToggleKeys,
        Group.toggleKeys, ExpansionStore.visitAll_append]
    · rw [if_neg hshown, if_neg hshown]
      exact renderFields_eq rules rest shown path depth store

theorem renderElements_eq (rules : DisplayRules) (items : List Value) (path : Path)
    (i depth : Nat) (store : ExpansionStore) :
    renderElements rules items path i depth store =
      (viewElements rules (store.flags rules) items path i depth,
        store.visitAll rules
          (groupToggleKeys (viewElements rules (store.flags rules) items path i depth))) := by
  cases items with
  | nil => rfl
  | cons value rest =>
    simp only [renderElements, viewElements, renderBody_eq, renderElements_eq,
      ExpansionStore.flags_visitAll, groupToggleKeys, Group.toggleKeys,
      ExpansionStore.visitAll_append]

theorem renderItems_eq (rules : DisplayRules) (items : List Value) (own : Path)
    (i depth : Nat) (store : ExpansionStore) :
    renderItems rules items own i depth store =
      (viewItems rules (store.flags rules) items own i depth,
        store.visitAll rules
          (itemToggleKeys (viewItems rules (store.flags rules) items own i depth))) := by
  cases items with
  | nil => rfl
  | cons value rest =>
    simp only [renderItems, viewItems, render_eq, renderItems_eq,
      ExpansionStore.flags_visitAll, itemToggleKeys, ExpansionStore.visitAll_append]

end

/-! ### A view depends on its own labels only -/

/-- A map looks the same under flags that agree on the labels shown of it, provided its groups
do. -/
theorem viewMap_congr {rules : DisplayRules} {flags other : Flags}
    {fields : List (String × Value)} {path : Path} {depth : Nat}
    {groups groups' : (String → Value → Bool) → List Group}
    (h : ∀ key ∈ (viewMap rules flags fields path depth groups).toggleKeys, other key = flags key)
    (hgroups : ∀ shown, (∀ key ∈ groupToggleKeys (groups shown), other key = flags key) →
      groups' shown = groups shown) :
    viewMap rules other fields path depth groups' =
      viewMap rules flags fields path depth groups := by
  unfold viewMap at h ⊢
  cases htag : rules.tagKeys.tagOf fields with
  | none =>
    simp only [htag, Visual.toggleKeys] at h ⊢
    rw [hgroups _ h]
  | some kind =>
    simp only [htag, Visual.toggleKeys] at h ⊢
    by_cases hany : (fields.any fun (name, value) => rules.showsField name value) = true
    · simp only [if_pos hany, Toggle.isToggleable_ofOpen, Toggle.isOpen_ofOpen] at h ⊢
      have hown : other ⟨.node, path⟩ = flags ⟨.node, path⟩ := h _ (by simp)
      rw [hown]
      -- Only an open node looks at the flags of what is below it.
      cases hflag : flags ⟨.node, path⟩ with
      | true =>
        rw [if_pos rfl, hgroups _ fun key hkey => h key (by simp [hflag, hkey])]
        rfl
      | false => rfl
    · rw [if_neg hany, if_neg hany]
      rfl

mutual

/-- **Congruence.** Flags that agree on the labels in a view give the same view. -/
theorem view_congr {rules : DisplayRules} {flags other : Flags} {value : Value} {path : Path}
    {depth : Nat}
    (h : ∀ key ∈ (view rules flags value path depth).toggleKeys, other key = flags key) :
    view rules other value path depth = view rules flags value path depth := by
  -- what flags are asked for depends on the flags, so agreement follows the visual
  cases value with
  | map fields =>
    simp only [view] at h ⊢
    exact viewMap_congr h fun shown hshown => viewFields_congr hshown
  | list items =>
    simp only [view, Visual.toggleKeys] at h ⊢
    rw [viewElements_congr h]
  | null | bool b | int n | float x | str s => rfl

/-- A body looks the same under flags that agree on what can be toggled in it. -/
theorem viewBody_congr {rules : DisplayRules} {flags other : Flags} {value : Value} {own : Path}
    {depth : Nat}
    (h : ∀ key ∈ (viewBody rules flags value own depth).toggleKeys own, other key = flags key) :
    viewBody rules other value own depth = viewBody rules flags value own depth := by
  cases value with
  | list items =>
    simp only [viewBody] at h ⊢
    by_cases hempty : items.isEmpty = true
    · rw [if_pos hempty, if_pos hempty]
    · simp only [if_neg hempty, Body.toggleKeys] at h ⊢
      -- the group's own flag is one of those that agree
      rw [h _ List.mem_cons_self]
      by_cases hflag : flags ⟨.group, own⟩ = true
      · simp only [if_pos hflag] at h ⊢
        rw [viewItems_congr fun key hkey => h key (List.mem_cons_of_mem _ hkey)]
      · rw [if_neg hflag, if_neg hflag]
  | map fields =>
    simp only [viewBody, Body.toggleKeys] at h ⊢
    rw [h _ List.mem_cons_self]
    by_cases hflag : flags ⟨.group, own⟩ = true
    · simp only [if_pos hflag, itemToggleKeys, List.append_nil] at h ⊢
      rw [viewMap_congr (fun key hkey => h key (List.mem_cons_of_mem _ hkey))
        fun shown hshown => viewFields_congr hshown]
    · rw [if_neg hflag, if_neg hflag]
  | null | bool b | int n | float x | str s => rfl

/-- The case of the fields of an object. -/
theorem viewFields_congr {rules : DisplayRules} {flags other : Flags}
    {fields : List (String × Value)} {shown : String → Value → Bool} {path : Path} {depth : Nat}
    (h : ∀ key ∈ groupToggleKeys (viewFields rules flags fields shown path depth),
      other key = flags key) :
    viewFields rules other fields shown path depth =
      viewFields rules flags fields shown path depth := by
  match fields with
  | [] => rfl
  | (name, value) :: rest =>
    simp only [viewFields] at h ⊢
    by_cases hshown : shown name value = true
    · simp only [if_pos hshown, groupToggleKeys, Group.toggleKeys] at h ⊢
      rw [viewBody_congr fun key hkey => h key (List.mem_append_left _ hkey),
        viewFields_congr fun key hkey => h key (List.mem_append_right _ hkey)]
    · rw [if_neg hshown] at h ⊢
      rw [if_neg hshown]
      exact viewFields_congr h

theorem viewElements_congr {rules : DisplayRules} {flags other : Flags} {items : List Value}
    {path : Path} {i depth : Nat}
    (h : ∀ key ∈ groupToggleKeys (viewElements rules flags items path i depth),
      other key = flags key) :
    viewElements rules other items path i depth = viewElements rules flags items path i depth := by
  match items with
  | [] => rfl
  | value :: rest =>
    simp only [viewElements, groupToggleKeys, Group.toggleKeys] at h ⊢
    rw [viewBody_congr fun key hkey => h key (List.mem_append_left _ hkey),
      viewElements_congr fun key hkey => h key (List.mem_append_right _ hkey)]

theorem viewItems_congr {rules : DisplayRules} {flags other : Flags} {items : List Value}
    {own : Path} {i depth : Nat}
    (h : ∀ key ∈ itemToggleKeys (viewItems rules flags items own i depth),
      other key = flags key) :
    viewItems rules other items own i depth = viewItems rules flags items own i depth := by
  match items with
  | [] => rfl
  | value :: rest =>
    simp only [viewItems, itemToggleKeys] at h ⊢
    rw [view_congr fun key hkey => h key (List.mem_append_left _ hkey),
      viewItems_congr fun key hkey => h key (List.mem_append_right _ hkey)]

end

end TreeOutline
