import TreeOutline.Proofs.Outline.Faithful
import TreeOutline.Proofs.Outline.Marks
import TreeOutline.Proofs.Workbench.Run

namespace TreeOutline

/-!
# The active kind only marks

The active kind and the source text decide which nodes are marked and which snippets they carry, and
nothing else.

* `view_eq_node` — a node stands for a map; the kind of the map decides the mark and its fields the
  snippet.
* `renderRoot_node` — so does every node inside what a pass shows.
* `Model.Fresh.rows_setActiveKind`, `Model.Fresh.snapshot_setActiveKind` — another active kind keeps
  the rows up to their marks, and all flags.
* `marks_decide_nothing_else` — **two renderings that differ in the active kind and in the source
  text** are alike up to marks and snippets, and leave the same store.
-/

/-- A kind is lit up where it is the active one. -/
theorem DisplayRules.isActive_iff {rules : DisplayRules} {kind : String} :
    rules.isActive kind = true ↔ rules.activeKind = some kind := by
  rw [isActive, beq_iff_eq]

/-! ### Where a node comes from -/

/-- A view that is a node stands for a map, at the path of the map. -/
theorem view_eq_node {rules : DisplayRules} {flags : Flags} {value : Value} {path own : Path}
    {depth ownDepth : Nat} {kind : String} {toggle : Toggle} {active : Bool}
    {snippet : Option String} {groups : List Group}
    (h : view rules flags value path depth =
      .node own ownDepth kind toggle active snippet groups) :
    own = path ∧ active = rules.isActive kind ∧ ∃ fields, value = .map fields ∧
      rules.tagKeys.Tags fields kind ∧ snippet = rules.snippetOf fields := by
  cases value with
  | map fields =>
    rw [view, viewMap] at h
    cases htag : rules.tagKeys.tagOf fields with
    | none =>
      rw [htag] at h
      cases h
    -- a node comes from a map with a tag, and everything in it is read off this map
    | some found =>
      rw [htag] at h
      injection h with hpath _ hkind _ hactive hsnippet _
      subst hkind
      exact ⟨hpath.symm, hactive.symm, fields, rfl, TagKeys.tagOf_eq_some_iff.1 htag,
        hsnippet.symm⟩
  | list items =>
    rw [view] at h
    cases h
  | null | bool b | int n | float x | str s => cases h

/-- A node inside what a pass shows stands for a map in the tree, at the path of the map. -/
theorem renderRoot_node {rules : DisplayRules} {tree : Option Value} {store : ExpansionStore}
    {path : Path} {depth : Nat} {kind : String} {toggle : Toggle} {active : Bool}
    {snippet : Option String} {groups : List Group}
    (h : .visual (.node path depth kind toggle active snippet groups) ∈
      (renderRoot rules tree store).1.parts) :
    active = rules.isActive kind ∧ ∃ value fields, tree = some value ∧
      (path, .map fields) ∈ value.located [] ∧ rules.tagKeys.Tags fields kind ∧
        snippet = rules.snippetOf fields := by
  rw [renderRoot_fst] at h
  cases tree with
  | none =>
    -- Without a tree nothing is shown, and this is not a node.
    cases List.mem_singleton.1 h
  | some value =>
    obtain ⟨⟨own, found⟩, hmem, ownDepth, hview⟩ := view_parts value [] 0 _ h
    obtain ⟨rfl, hactive, fields, rfl, htags, hsnippet⟩ := view_eq_node hview.symm
    exact ⟨hactive, value, fields, rfl, hmem, htags, hsnippet⟩

/-! ### Another active kind -/

namespace Model.Fresh

variable {m : Model}

/-- Another active kind keeps the rows up to their marks. -/
theorem rows_setActiveKind (h : m.Fresh) (kind : Option String) :
    (m.setActiveKind kind).2.rows.map (Row.remark .dropMarks) =
      m.rows.map (Row.remark .dropMarks) := by
  unfold Model.setActiveKind
  by_cases hsame : m.activeKind = kind
  · rw [if_pos hsame]
  · rw [if_neg hsame, h.rows_eq_renderRoot]
    exact rows_renderRoot_remark (m.rules.agreeUpTo_activeKind kind) m.session.tree m.store

/-- Another active kind keeps all flags. -/
theorem snapshot_setActiveKind (h : m.Fresh) (kind : Option String) :
    (m.setActiveKind kind).2.store.snapshot = m.store.snapshot := by
  unfold Model.setActiveKind
  by_cases hsame : m.activeKind = kind
  · rw [if_pos hsame]
  · rw [if_neg hsame]
    -- The pass leaves what a pass with the old kind would, and that one would change nothing.
    have hstore : ({ m with activeKind := kind } : Model).refresh.store =
        (renderRoot m.rules m.session.tree m.store).2 :=
      (m.rules.agreeUpTo_activeKind kind).renderRoot_snd m.session.tree m.store
    rw [hstore, h.settled.snapshot_renderRoot]

end Model.Fresh

/-! ### Marks decide nothing else -/

/-- **Marks decide nothing else.** Under rules that differ in the active kind and in the source text
only, a pass over a tree shows the same up to marks and snippets and leaves the same store.  Every
node inside what it shows is marked exactly when its kind is the active one, and its snippet is that
of the fields of the map at its path in the source text.  So in every run of the workbench another
active kind changes no row but for its mark, and no flag. -/
theorem marks_decide_nothing_else :
    (∀ (rules : DisplayRules) (kind source : Option String) (tree : Option Value)
      (store : ExpansionStore),
      let other : DisplayRules := { rules with activeKind := kind, sourceText := source }
      (renderRoot other tree store).1.remark .dropAll =
          (renderRoot rules tree store).1.remark .dropAll ∧
        (renderRoot other tree store).2 = (renderRoot rules tree store).2) ∧
    (∀ (rules : DisplayRules) (tree : Option Value) (store : ExpansionStore) (path : Path)
      (depth : Nat) (kind : String) (toggle : Toggle) (active : Bool) (snippet : Option String)
      (groups : List Group),
      .visual (.node path depth kind toggle active snippet groups) ∈
          (renderRoot rules tree store).1.parts →
        (active = true ↔ rules.activeKind = some kind) ∧
          ∃ value fields, tree = some value ∧ (path, .map fields) ∈ value.located [] ∧
            rules.tagKeys.Tags fields kind ∧
            snippet = rules.sourceText.bind fun source =>
              (nodeSnippet source.toList fields).map String.ofList) ∧
    ∀ (session : Session) (settings : DisplayRules) (actions : List Model.Action)
      (kind : Option String),
      let m := (Model.ofSession session settings).run actions
      (m.setActiveKind kind).2.rows.map (Row.remark .dropMarks) =
          m.rows.map (Row.remark .dropMarks) ∧
        (m.setActiveKind kind).2.store.snapshot = m.store.snapshot := by
  refine ⟨fun rules kind source tree store => ?_, ?_, ?_⟩
  · have hagree := rules.agreeUpTo_dropAll kind source
    exact ⟨renderRoot_remark hagree tree store, hagree.renderRoot_snd tree store⟩
  · intro rules tree store path depth kind toggle active snippet groups hpart
    obtain ⟨hactive, hnode⟩ := renderRoot_node hpart
    refine ⟨?_, hnode⟩
    rw [hactive, DisplayRules.isActive_iff]
  · intro session settings actions kind m
    -- rows and store are those of the last rendering, so marks are all that can change
    have hfresh : m.Fresh := (Model.fresh_ofSession session settings).run actions
    exact ⟨hfresh.rows_setActiveKind kind, hfresh.snapshot_setActiveKind kind⟩

/-! ### A marked node -/

/-- A block of four letters with a leaf inside it. -/
def spannedTree : Value :=
  .map [("type", .str "Block"), ("start", .int 0), ("end", .int 4),
    ("body", .list [.map [("type", .str "Leaf"), ("start", .int 1), ("end", .int 3)]])]

/-- Tools that always read this block. -/
def spannedTools : Tools := ⟨fun _ => .ok spannedTree, none⟩

/-- Everything is open, and nothing marked. -/
def openRules : DisplayRules := { DisplayRules.standard with openDepth := 9 }

/-- Everything is open, and the leaf marked. -/
def leafRules : DisplayRules :=
  { openRules with activeKind := some "Leaf", sourceText := some "word" }

/-- The leaf inside the block is marked and stands for the two letters in the middle; without the
marks the block looks as it does when no kind is active and its text is not known. -/
theorem marks_decide_nothing_else_leaf :
    let visual := (renderRoot leafRules (some spannedTree) .empty).1
    let leaf : Visual := .node [.field "body", .index 0] 2 "Leaf" .static true (some "or") []
    visual = .node [] 0 "Block" .opened false (some "word")
        [.mk [.field "body"] 1 "body" (.children true 1 [leaf])] ∧
      .visual leaf ∈ visual.parts ∧
      leafRules.activeKind = some "Leaf" ∧
      (∃ fields, ([.field "body", .index 0], .map fields) ∈ spannedTree.located [] ∧
        (nodeSnippet "word".toList fields).map String.ofList = some "or") ∧
      visual.remark .dropAll =
        (renderRoot openRules (some spannedTree) .empty).1.remark .dropAll := by
  intro visual leaf
  have hvisual : visual = .node [] 0 "Block" .opened false (some "word")
      [.mk [.field "body"] 1 "body" (.children true 1 [leaf])] := by
    unfold visual leaf
    cbv
  have hleaf : .visual leaf ∈ visual.parts := by
    rw [hvisual]
    simp [leaf, Visual.parts, groupParts, Group.parts, Body.parts, itemParts]
  -- with a kind and a source: the one leaf is marked and shows its snippet
  obtain ⟨hagree, hnode, -⟩ := marks_decide_nothing_else
  obtain ⟨hmarked, value, fields, htree, hmem, -, hsnippet⟩ := hnode _ _ _ _ _ _ _ _ _ _ hleaf
  rw [Option.some.injEq] at htree
  subst htree
  exact ⟨hvisual, hleaf, hmarked.1 rfl, ⟨fields, hmem, hsnippet.symm⟩,
    (hagree openRules (some "Leaf") (some "word") (some spannedTree) .empty).1⟩

end TreeOutline
