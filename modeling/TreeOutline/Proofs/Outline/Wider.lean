import TreeOutline.Proofs.Outline.Label

namespace TreeOutline

/-!
# Rules that show more

Two renderings of one tree, the second under rules that show every field the first shows.

* `DisplayRules.Widens` — rules that show at least as much of each node; `widens_of_all`,
  `widens_of_whitelist` say which do.
* `LabelsKept` — a forest that has the labels of another one in their order, and more below and
  between them.
* `labels_kept` — **wider rules give a wider forest**.
* `Row.KeptAs`, `LabelsKept.rows` — so the rows of the narrower forest are kept, in their order, as
  long as no flag is closed.
* `toggleKeys_subset` — the labels that the narrower pass visits are visited by the wider one.
* `ExpansionStore.SeenBounded.viewRoot_detour`, `ExpansionStore.Settled.peek_detour` — a wider pass
  and back again shows and leaves what was there before.
-/

/-- Rules that read the same tags and show every field that the others show. -/
structure DisplayRules.Widens (wider rules : DisplayRules) : Prop where
  tagKeys : wider.tagKeys = rules.tagKeys
  shows : ∀ name value, rules.showsField name value = true → wider.showsField name value = true

namespace DisplayRules

variable {wider rules : DisplayRules}

/-- All fields are at least those that any other rules show. -/
theorem widens_of_all (htagKeys : wider.tagKeys = rules.tagKeys) (hall : wider.variant = .all) :
    wider.Widens rules where
  tagKeys := htagKeys
  shows name value _ := by
    unfold showsField
    rw [hall]

/-- Filtered fields are at least those of a shorter whitelist. -/
theorem widens_of_whitelist (htagKeys : wider.tagKeys = rules.tagKeys)
    (hfiltered : rules.variant = .filtered) (hfiltered' : wider.variant = .filtered)
    (hwhitelist : rules.whitelist ⊆ wider.whitelist) : wider.Widens rules where
  tagKeys := htagKeys
  shows name value hshown := by
    unfold showsField at hshown ⊢
    rw [hfiltered] at hshown
    rw [hfiltered', htagKeys]
    simp only [Bool.or_eq_true, List.contains_iff_mem] at hshown ⊢
    -- shown for its own sake, or since its name is on the list
    exact hshown.imp_right fun hname => hwhitelist hname

/-- What starts open still does where the rules open deeper. -/
theorem startsOpen_of_le (hdepth : rules.openDepth ≤ wider.openDepth) {path : Path}
    (hopen : rules.startsOpen path = true) : wider.startsOpen path = true := by
  rw [startsOpen, decide_eq_true_eq] at hopen ⊢
  exact hopen.trans hdepth

end DisplayRules

/-! ### Forests -/

/-- The same caption, but for what a pass marks; what could be opened still can be. -/
structure Caption.KeptAs (caption kept : Caption) : Prop where
  key : kept.key = caption.key
  label : kept.label = caption.label
  detail : kept.detail = caption.detail
  count : kept.count = caption.count
  opens : caption.opens = true → kept.opens = true

theorem Caption.KeptAs.refl (caption : Caption) : caption.KeptAs caption :=
  ⟨rfl, rfl, rfl, rfl, id⟩

/-- The second forest has the labels of the first in their order, and perhaps more. -/
inductive LabelsKept : List Label → List Label → Prop where
  | nil (labels : List Label) : LabelsKept [] labels
  | keep {caption kept : Caption} {below below' rest rest' : List Label} :
      caption.KeptAs kept → LabelsKept below below' → LabelsKept rest rest' →
        LabelsKept (.mk caption below :: rest) (.mk kept below' :: rest')
  | skip (label : Label) {labels rest : List Label} :
      LabelsKept labels rest → LabelsKept labels (label :: rest)

/-- Labels are kept when each of two parts is. -/
theorem LabelsKept.append {first first' second second' : List Label}
    (hfirst : LabelsKept first first') (hsecond : LabelsKept second second') :
    LabelsKept (first ++ second) (first' ++ second') := by
  -- on the first derivation: what is left of the wider list is skipped label by label
  induction hfirst with
  | nil labels =>
    induction labels with
    | nil => exact hsecond
    | cons label labels ih => exact ih.skip label
  | keep hcaption hbelow _ _ ih => exact .keep hcaption hbelow ih
  | skip label _ ih => exact ih.skip label

variable {rules wider : DisplayRules}

/-- A map keeps its labels, provided its groups do. -/
theorem mapLabels_kept (h : wider.Widens rules) (fields : List (String × Value)) (path : Path)
    {groups groups' : (String → Value → Bool) → List Label}
    (hgroups : ∀ shown shown' : String → Value → Bool,
      (∀ name value, shown name value = true → shown' name value = true) →
        LabelsKept (groups shown) (groups' shown')) :
    LabelsKept (mapLabels rules fields path groups) (mapLabels wider fields path groups') := by
  unfold mapLabels
  rw [h.tagKeys]
  cases rules.tagKeys.tagOf fields with
  | none => exact hgroups _ _ fun _ _ => id
  | some kind =>
    -- the node is kept, and a field shown before is still shown, so it opens
    refine .keep ⟨rfl, rfl, rfl, rfl, fun hopens => ?_⟩ (hgroups _ _ h.shows) (.nil _)
    obtain ⟨field, hfield, hshown⟩ := List.any_eq_true.1 hopens
    exact List.any_eq_true.2 ⟨field, hfield, h.shows _ _ hshown⟩

mutual

/-- **A wider forest.** Under wider rules a value keeps all its labels. -/
theorem labels_kept (h : wider.Widens rules) (value : Value) (path : Path) :
    LabelsKept (labels rules value path) (labels wider value path) := by
  cases value with
  | map fields =>
    exact mapLabels_kept h fields path fun _ _ hshown => fieldLabels_kept h fields hshown path
  | list items => exact elementLabels_kept h items path 0
  | null | bool b | int n | float x | str s => exact .nil _

/-- Wider rules keep the labels of a body; one case for each constructor. -/
theorem bodyLabels_kept (h : wider.Widens rules) (value : Value) (own : Path) :
    LabelsKept (bodyLabels rules value own) (bodyLabels wider value own) := by
  cases value with
  | map fields =>
    exact mapLabels_kept h fields own fun _ _ hshown => fieldLabels_kept h fields hshown own
  | list items => exact itemLabels_kept h items own 0
  | null | bool b | int n | float x | str s => exact .nil _

/-- The case of the fields of an object, of which more may be shown. -/
theorem fieldLabels_kept (h : wider.Widens rules) (fields : List (String × Value))
    {shown shown' : String → Value → Bool}
    (hshown : ∀ name value, shown name value = true → shown' name value = true) (path : Path) :
    LabelsKept (fieldLabels rules fields shown path) (fieldLabels wider fields shown' path) := by
  match fields with
  | [] => exact .nil _
  | (name, value) :: rest =>
    have hrest := fieldLabels_kept h rest hshown path
    simp only [fieldLabels]
    by_cases hfirst : shown name value = true
    · rw [if_pos hfirst, if_pos (hshown name value hfirst)]
      exact .keep (.refl _) (bodyLabels_kept h value (path.field name)) hrest
    · rw [if_neg hfirst]
      -- hidden in the narrower view: the wider one may show it in between
      by_cases hmore : shown' name value = true
      · rw [if_pos hmore]
        exact hrest.skip _
      · rw [if_neg hmore]
        exact hrest

theorem elementLabels_kept (h : wider.Widens rules) (items : List Value) (path : Path) (i : Nat) :
    LabelsKept (elementLabels rules items path i) (elementLabels wider items path i) := by
  match items with
  | [] => exact .nil _
  | value :: rest =>
    exact .keep (.refl _) (bodyLabels_kept h value (path.index i))
      (elementLabels_kept h rest path (i + 1))

theorem itemLabels_kept (h : wider.Widens rules) (items : List Value) (own : Path) (i : Nat) :
    LabelsKept (itemLabels rules items own i) (itemLabels wider items own i) := by
  match items with
  | [] => exact .nil _
  | value :: rest =>
    exact (labels_kept h value (own.index i)).append (itemLabels_kept h rest own (i + 1))

end

/-- Wider rules keep the labels of a tree. -/
theorem rootLabels_kept (h : wider.Widens rules) (tree : Option Value) :
    LabelsKept (rootLabels rules tree) (rootLabels wider tree) := by
  cases tree with
  | none => exact .nil _
  | some value => exact labels_kept h value []

/-! ### Rows -/

/-- The same row, but for what a pass marks; what could be opened can still be, and each shows its
own flag. -/
structure Row.KeptAs (flags other : Flags) (row kept : Row) : Prop where
  key : kept.key = row.key
  level : kept.level = row.level
  label : kept.label = row.label
  detail : kept.detail = row.detail
  count : kept.count = row.count
  toggle : row.toggle.isToggleable = true →
    row.toggle = .ofOpen (flags row.key) ∧ kept.toggle = .ofOpen (other row.key)

/-- The row of a kept caption is kept. -/
theorem Caption.KeptAs.row {caption kept : Caption} (h : caption.KeptAs kept)
    (flags other : Flags) (level : Nat) :
    (caption.row flags level).KeptAs flags other (kept.row other level) where
  key := h.key
  level := rfl
  label := h.label
  detail := h.detail
  count := h.count
  toggle htoggle := by
    have hopens : caption.opens = true := by
      rw [← caption.isToggleable_toggle flags]
      exact htoggle
    -- the kept row asks for the flag of the same key
    refine ⟨if_pos hopens, ?_⟩
    rw [← show kept.key = (caption.row flags level).key from h.key]
    exact if_pos (h.opens hopens)

/-- An open label stays open where no flag is closed. -/
theorem Caption.KeptAs.isOpen {caption kept : Caption} (h : caption.KeptAs kept)
    {flags other : Flags} (hflags : ∀ key, flags key = true → other key = true)
    (hopen : (caption.toggle flags).isOpen = true) : (kept.toggle other).isOpen = true := by
  unfold toggle at hopen ⊢
  by_cases hopens : caption.opens = true
  · rw [if_pos hopens, Toggle.isOpen_ofOpen] at hopen
    -- the kept caption can be opened too and asks for the same key
    rw [if_pos (h.opens hopens), Toggle.isOpen_ofOpen, h.key]
    exact hflags _ hopen
  · rw [if_neg hopens] at hopen
    exact nomatch hopen

/-- Sublists up to a relation may be put behind each other. -/
theorem sublistForall₂_append {α β : Type} {R : α → β → Prop} {first second : List α}
    {first' second' : List β} (hfirst : List.SublistForall₂ R first first')
    (hsecond : List.SublistForall₂ R second second') :
    List.SublistForall₂ R (first ++ second) (first' ++ second') := by
  induction hfirst with
  | @nil labels =>
    induction labels with
    | nil => exact hsecond
    | cons label labels ih => exact .cons_right ih
  | cons hrel _ ih => exact .cons hrel ih
  | cons_right _ ih => exact .cons_right ih

variable {flags other : Flags}

/-- **Rows are kept.** Where no flag is closed, the rows of a forest are among those of a wider one,
in their order. -/
theorem LabelsKept.rows {labels labels' : List Label} (h : LabelsKept labels labels')
    (hflags : ∀ key, flags key = true → other key = true) (level : Nat) :
    List.SublistForall₂ (Row.KeptAs flags other) (labelRows flags labels level)
      (labelRows other labels' level) := by
  induction h generalizing level with
  | nil labels => exact .nil
  | @keep caption kept below below' rest rest' hcaption _ _ ihbelow ihrest =>
    simp only [labelRows]
    refine sublistForall₂_append ?_ (ihrest level)
    rw [Label.rows, Label.rows]
    refine .cons (hcaption.row flags other level) ?_
    by_cases hopen : (caption.toggle flags).isOpen = true
    · rw [if_pos hopen, if_pos (hcaption.isOpen hflags hopen)]
      exact ihbelow (level + 1)
    · -- a closed label has no rows below it, so nothing has to be kept
      rw [if_neg hopen]
      exact .nil
  | skip label _ ih =>
    rw [labelRows]
    exact sublistForall₂_append .nil (ih level)

/-- A member of a sublist up to a relation has its counterpart in the list. -/
theorem exists_of_mem_sublistForall₂ {α β : Type} {R : α → β → Prop} {first : List α}
    {second : List β} (h : List.SublistForall₂ R first second) {a : α} (ha : a ∈ first) :
    ∃ b ∈ second, R a b := by
  induction h with
  | nil => exact absurd ha List.not_mem_nil
  | cons hrel _ ih =>
    rcases List.mem_cons.1 ha with rfl | hrest
    · exact ⟨_, List.mem_cons_self, hrel⟩
    · obtain ⟨b, hb, hab⟩ := ih hrest
      exact ⟨b, List.mem_cons_of_mem _ hb, hab⟩
  | cons_right _ ih =>
    obtain ⟨b, hb, hab⟩ := ih ha
    exact ⟨b, List.mem_cons_of_mem _ hb, hab⟩

/-- The rows of a tree are kept under wider rules. -/
theorem rows_viewRoot_kept (h : wider.Widens rules)
    (hflags : ∀ key, flags key = true → other key = true) (tree : Option Value) :
    List.SublistForall₂ (Row.KeptAs flags other) (viewRoot rules flags tree).rows
      (viewRoot wider other tree).rows := by
  rw [rows_viewRoot, rows_viewRoot]
  exact (rootLabels_kept h tree).rows hflags 0

/-- **What the narrower pass visits, the wider one does.** -/
theorem toggleKeys_subset (h : wider.Widens rules)
    (hflags : ∀ key, flags key = true → other key = true) {tree : Option Value} {key : LabelKey}
    (hkey : key ∈ (viewRoot rules flags tree).toggleKeys) :
    key ∈ (viewRoot wider other tree).toggleKeys := by
  rw [mem_toggleKeys_iff] at hkey ⊢
  obtain ⟨row, hrow, rfl, htoggle⟩ := hkey
  obtain ⟨kept, hmem, hkept⟩ := exists_of_mem_sublistForall₂ (rows_viewRoot_kept h hflags tree) hrow
  refine ⟨kept, hmem, hkept.key, ?_⟩
  rw [(hkept.toggle htoggle).2, Toggle.isToggleable_ofOpen]

/-! ### A wider pass and back again -/

namespace ExpansionStore

variable {tree : Option Value} {store : ExpansionStore}

/-- A pass under wider rules keeps the flags of all labels that the narrower rules show. -/
theorem SeenBounded.flags_detour (h : store.SeenBounded) (hwider : wider.Widens rules)
    (hdepth : wider.openDepth = rules.openDepth) {key : LabelKey}
    (hkey : key ∈ (viewRoot rules (store.flags rules) tree).toggleKeys) :
    (renderRoot wider tree store).2.flags rules key = store.flags rules key := by
  rw [← flags_eq_of_openDepth hdepth, ← flags_eq_of_openDepth hdepth store, flags_renderRoot h,
    if_pos]
  rw [flags_eq_of_openDepth hdepth]
  exact toggleKeys_subset hwider (fun _ => id) hkey

/-- So the narrower rules show the same after it. -/
theorem SeenBounded.viewRoot_detour (h : store.SeenBounded) (hwider : wider.Widens rules)
    (hdepth : wider.openDepth = rules.openDepth) :
    viewRoot rules ((renderRoot wider tree store).2.flags rules) tree =
      viewRoot rules (store.flags rules) tree :=
  viewRoot_congr fun _ hkey => h.flags_detour hwider hdepth hkey

/-- **There and back.** From a settled store, a pass under wider rules and one under the old rules
leave the flags as they were: the labels that only the wider rules show lose theirs again. -/
theorem Settled.peek_detour (h : store.Settled rules tree) (hwider : wider.Widens rules)
    (hdepth : wider.openDepth = rules.openDepth) (key : LabelKey) :
    (renderRoot rules tree (renderRoot wider tree store).2).2.peek key = store.peek key := by
  have hseen : (renderRoot wider tree store).2.SeenBounded :=
    (h.seenBounded.settled wider tree).seenBounded
  rw [TreeOutline.peek_renderRoot hseen, h.seenBounded.viewRoot_detour hwider hdepth, h.peek_eq]
  by_cases hkey : key ∈ (viewRoot rules (store.flags rules) tree).toggleKeys
  · rw [if_pos hkey, if_pos hkey, h.seenBounded.flags_detour hwider hdepth hkey]
  · rw [if_neg hkey, if_neg hkey]

end ExpansionStore

end TreeOutline
