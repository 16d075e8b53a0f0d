import TreeOutline.Proofs.Outline.Keys
import TreeOutline.Proofs.Outline.Wider

namespace TreeOutline

/-!
# More permissive rules only add rows

A tree that was never shown before, under rules of which one set shows more and opens more.

* `keys_sublist_of_kept` — rows that are kept have their keys in the same order.
* `Row.KeptAs.of_key_eq` — where keys are distinct, a key leads to the row that is kept.
* `ExpansionStore.flags_empty` — without a store, a label is open if the rules open it.
* `rows_permissive` — the rows under the narrower rules are among those under the wider ones, and
  each says the same there and is still open.
-/

variable {rules wider : DisplayRules} {flags other : Flags} {rows more : List Row}

/-- Kept rows have their keys in the same order. -/
theorem keys_sublist_of_kept (h : List.SublistForall₂ (Row.KeptAs flags other) rows more) :
    (rows.map Row.key).Sublist (more.map Row.key) := by
  induction h with
  | nil => exact List.nil_sublist _
  | cons hkept _ ih =>
    rw [List.map_cons, List.map_cons, hkept.key]
    exact ih.cons_cons _
  | cons_right _ ih => exact ih.cons _

/-- Where keys are distinct, a row is kept as the one with its key. -/
theorem Row.KeptAs.of_key_eq (h : List.SublistForall₂ (Row.KeptAs flags other) rows more)
    (hnodup : (more.map Row.key).Nodup) {row kept : Row} (hrow : row ∈ rows) (hmem : kept ∈ more)
    (hkey : kept.key = row.key) : row.KeptAs flags other kept := by
  obtain ⟨found, hfound, hkept⟩ := exists_of_mem_sublistForall₂ h hrow
  obtain rfl : found = kept :=
    List.inj_on_of_nodup_map hnodup hfound hmem (hkept.key.trans hkey.symm)
  exact hkept

/-- What is open stays open where no flag is closed. -/
theorem Row.KeptAs.opened {row kept : Row} (h : row.KeptAs flags other kept)
    (hflags : ∀ key, flags key = true → other key = true) (hopen : row.toggle = .opened) :
    kept.toggle = .opened := by
  obtain ⟨hrow, hkept⟩ := h.toggle (by rw [hopen]; rfl)
  have hflag : flags row.key = true := by
    rw [← Toggle.isOpen_ofOpen (flags row.key), ← hrow, hopen]
    rfl
  rw [hkept, hflags row.key hflag]
  rfl

/-- Without a store, a label is open if the rules open it. -/
theorem ExpansionStore.flags_empty (rules : DisplayRules) (key : LabelKey) :
    ExpansionStore.empty.flags rules key = rules.startsOpen key.path := by
  rw [flags, peek_empty]
  rfl

/-- **More permissive rules only add rows.** Let two sets of rules read the same tags, and let the
second open at least as deep and show all fields, or both show filtered fields and the second with
at least the names of the first.  Then the rows of a tree that was not shown before come, by their
keys, in the same order under both; a key that both show has the same level, label, detail and
count, and is open under the second rules if it is under the first. -/
theorem rows_permissive {tree : Option Value} (wf : WellFormedTree tree)
    (htagKeys : wider.tagKeys = rules.tagKeys) (hdepth : rules.openDepth ≤ wider.openDepth)
    (hshows : wider.variant = .all ∨ (rules.variant = .filtered ∧ wider.variant = .filtered ∧
      rules.whitelist ⊆ wider.whitelist)) :
    let rows := (renderRoot rules tree .empty).1.rows
    let more := (renderRoot wider tree .empty).1.rows
    (rows.map Row.key).Sublist (more.map Row.key) ∧
      ∀ row ∈ rows, ∀ kept ∈ more, kept.key = row.key →
        kept.level = row.level ∧ kept.label = row.label ∧ kept.detail = row.detail ∧
          kept.count = row.count ∧ (row.toggle = .opened → kept.toggle = .opened) := by
  intro rows more
  have hwider : wider.Widens rules := by
    rcases hshows with hall | ⟨hfiltered, hfiltered', hwhitelist⟩
    · exact DisplayRules.widens_of_all htagKeys hall
    · exact DisplayRules.widens_of_whitelist htagKeys hfiltered hfiltered' hwhitelist
  have hflags (key : LabelKey) (hopen : ExpansionStore.empty.flags rules key = true) :
      ExpansionStore.empty.flags wider key = true := by
    rw [ExpansionStore.flags_empty] at hopen ⊢
    exact DisplayRules.startsOpen_of_le hdepth hopen
  -- row by row, the narrower rendering is kept in the wider one
  have hkept : List.SublistForall₂ (Row.KeptAs (ExpansionStore.empty.flags rules)
      (ExpansionStore.empty.flags wider)) rows more := by
    have h := rows_viewRoot_kept hwider hflags tree
    rwa [← renderRoot_fst, ← renderRoot_fst] at h
  refine ⟨keys_sublist_of_kept hkept, fun row hrow kept hmem hkey => ?_⟩
  -- keys are told apart, so the row with this key is the one that keeps it
  have h : row.KeptAs _ _ kept :=
    .of_key_eq hkept (rowKeys_nodup wider wf .empty) hrow hmem hkey
  exact ⟨h.level, h.label, h.detail, h.count, h.opened hflags⟩

/-- A statement without fields to show cannot be opened; under all fields it is open and its own
field is one of the rows that come. -/
theorem rows_permissive_leaf :
    let rules : DisplayRules := { DisplayRules.standard with openDepth := 1 }
    let wider : DisplayRules := { DisplayRules.standard with variant := .all, openDepth := 2 }
    let rows := (renderRoot rules (some sampleTree) .empty).1.rows
    let more := (renderRoot wider (some sampleTree) .empty).1.rows
    let leaf : LabelKey := ⟨.node, [.field "body", .index 0]⟩
    WellFormedTree (some sampleTree) ∧ wider.tagKeys = rules.tagKeys ∧
      rules.openDepth ≤ wider.openDepth ∧ wider.variant = .all ∧
      rows.map (fun row => (row.key, row.toggle)) =
        [(⟨.node, []⟩, .opened), (⟨.group, [.field "body"]⟩, .opened), (leaf, .static),
          (⟨.group, [.field "body", .index 1, .index 0]⟩, .closed)] ∧
      more.map (fun row => (row.key, row.toggle)) =
        [(⟨.node, []⟩, .opened), (⟨.group, [.field "type"]⟩, .static),
          (⟨.group, [.field "body"]⟩, .opened), (leaf, .opened),
          (⟨.group, [.field "body", .index 0, .field "type"]⟩, .static),
          (⟨.group, [.field "body", .index 1, .index 0]⟩, .closed)] ∧
      (rows.map Row.key).Sublist (more.map Row.key) ∧
      ∀ row ∈ rows, ∀ kept ∈ more, kept.key = row.key →
        kept.level = row.level ∧ kept.label = row.label ∧ kept.detail = row.detail ∧
          kept.count = row.count ∧ (row.toggle = .opened → kept.toggle = .opened) := by
  intro rules wider rows more leaf
  have hdepth : rules.openDepth ≤ wider.openDepth := by decide
  obtain ⟨hkeys, hrows⟩ :=
    @rows_permissive rules wider (some sampleTree) sampleTree_wellFormed rfl hdepth (.inl rfl)
  -- both lists of rows, so that the difference between the two can be seen
  refine ⟨sampleTree_wellFormed, rfl, hdepth, rfl, ?_, ?_, hkeys, hrows⟩
  · unfold rows rules leaf
    rw [rows_renderRoot]
    cbv
  · unfold more wider leaf
    rw [rows_renderRoot]
    cbv

end TreeOutline
