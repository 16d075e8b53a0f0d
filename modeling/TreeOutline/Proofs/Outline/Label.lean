import TreeOutline.Outline.Row
import TreeOutline.Proofs.Outline.Pass

namespace TreeOutline

/-!
# The labels of a tree

Everything that a tree can show under given rules, as a forest of labels that does not depend on
the flags.  The flags only decide how far down it is shown.

* `Caption`, `Label` — what a label says, and the labels below it.
* `labels` — the forest of a value; `labelRows` — its rows under given flags.
* `rowsAt_view` — **the rows of a view are the rows of the forest**, so that facts about rows are
  facts about a single recursion over labels.
* `toggle_of_mem_labelRows`, `level_le_of_mem_labelRows` — the toggles and the levels of these rows.
* `mem_toggleKeys_iff` — the labels that a pass visits are the rows with a toggle.
-/

/-- What a label says, whether or not it is shown. -/
structure Caption where
  key : LabelKey
  label : String
  detail : Option String
  /-- Whether the label can be opened and closed. -/
  opens : Bool
  active : Bool
  snippet : Option String
  count : Option Nat
deriving DecidableEq, Repr

namespace Caption

/-- The toggle of a label under given flags. -/
def toggle (caption : Caption) (flags : Flags) : Toggle :=
  if caption.opens then .ofOpen (flags caption.key) else .static

/-- The row of a label under given flags. -/
def row (caption : Caption) (flags : Flags) (level : Nat) : Row :=
  ⟨caption.key, level, caption.label, caption.detail, caption.toggle flags, caption.active,
    caption.snippet, caption.count⟩

@[simp] theorem isToggleable_toggle (caption : Caption) (flags : Flags) :
    (caption.toggle flags).isToggleable = caption.opens := by
  unfold toggle
  cases caption.opens with
  | true => exact Toggle.isToggleable_ofOpen _
  | false => rfl

/-- The caption of a node: its kind. -/
def ofNode (rules : DisplayRules) (fields : List (String × Value)) (path : Path) (kind : String) :
    Caption where
  key := ⟨.node, path⟩
  label := kind
  detail := none
  opens := fields.any fun (name, value) => rules.showsField name value
  active := rules.isActive kind
  snippet := rules.snippetOf fields
  count := none

/-- The caption of the group at `own` for a field with this value: the field's name. -/
def ofGroup (own : Path) (name : String) : Value → Caption
  | .list items =>
    ⟨⟨.group, own⟩, name, if items.isEmpty then some "[]" else none, !items.isEmpty, false, none,
      some items.length⟩
  | .map _ => ⟨⟨.group, own⟩, name, none, true, false, none, some 1⟩
  | scalar => ⟨⟨.group, own⟩, name, some (literal (some scalar)), false, false, none, none⟩

@[simp] theorem key_ofGroup (own : Path) (name : String) (value : Value) :
    (ofGroup own name value).key = ⟨.group, own⟩ := by cases value <;> rfl

end Caption

/-- A label and the labels below it. -/
inductive Label where
  | mk (caption : Caption) (below : List Label)

/-! ### The forest of a value -/

/-- The labels of a map at `path`, given those of the fields that are shown. -/
def mapLabels (rules : DisplayRules) (fields : List (String × Value)) (path : Path)
    (groups : (String → Value → Bool) → List Label) : List Label :=
  match rules.tagKeys.tagOf fields with
  | none => groups fun _ _ => true
  | some kind => [.mk (.ofNode rules fields path kind) (groups rules.showsField)]

mutual

/-- The labels of one value at `path`. -/
def labels (rules : DisplayRules) : Value → Path → List Label
  | .map fields, path =>
    mapLabels rules fields path fun shown => fieldLabels rules fields shown path
  | .list items, path => elementLabels rules items path 0
  | _, _ => []

/-- The labels below the group at `own` for a field with this value. -/
def bodyLabels (rules : DisplayRules) : Value → (own : Path) → List Label
  | .list items, own => itemLabels rules items own 0
  | .map fields, own => mapLabels rules fields own fun shown => fieldLabels rules fields shown own
  | _, _ => []

/-- The labels of the fields that are shown. -/
def fieldLabels (rules : DisplayRules) :
    List (String × Value) → (shown : String → Value → Bool) → Path → List Label
  | [], _, _ => []
  | (name, value) :: rest, shown, path =>
    if shown name value then
      .mk (.ofGroup (path.field name) name value) (bodyLabels rules value (path.field name)) ::
        fieldLabels rules rest shown path
    else fieldLabels rules rest shown path

/-- The labels of the items of a list that stands in place of a node, from position `i` on. -/
def elementLabels (rules : DisplayRules) : List Value → Path → (i : Nat) → List Label
  | [], _, _ => []
  | value :: rest, path, i =>
    .mk (.ofGroup (path.index i) (toString i) value) (bodyLabels rules value (path.index i)) ::
      elementLabels rules rest path (i + 1)

/-- The labels of the items of the group at `own` from position `i` on. -/
def itemLabels (rules : DisplayRules) : List Value → (own : Path) → (i : Nat) → List Label
  | [], _, _ => []
  | value :: rest, own, i =>
    labels rules value (own.index i) ++ itemLabels rules rest own (i + 1)

end

/-- The labels of a whole tree. -/
def rootLabels (rules : DisplayRules) : Option Value → List Label
  | some value => labels rules value []
  | none => []

/-! ### The rows of a forest -/

mutual

/-- The rows of a label at `level`: its own, and while it is open those below it. -/
def Label.rows (flags : Flags) : Label → (level : Nat) → List Row
  | .mk caption below, level =>
    caption.row flags level ::
      if (caption.toggle flags).isOpen then labelRows flags below (level + 1) else []

/-- The rows of labels one after the other. -/
def labelRows (flags : Flags) : List Label → (level : Nat) → List Row
  | [], _ => []
  | label :: rest, level => label.rows flags level ++ labelRows flags rest level

end

/-- Labels become rows one after the other. -/
theorem labelRows_append (flags : Flags) (first second : List Label) (level : Nat) :
    labelRows flags (first ++ second) level =
      labelRows flags first level ++ labelRows flags second level := by
  induction first with
  | nil => rfl
  | cons label rest ih => simp only [List.cons_append, labelRows, ih, List.append_assoc]

/-- A row of a label is its own, or while it is open one of those below it. -/
theorem Label.mem_rows {flags : Flags} {caption : Caption} {below : List Label} {level : Nat}
    {row : Row} :
    row ∈ (Label.mk caption below).rows flags level ↔
      row = caption.row flags level ∨
        ((caption.toggle flags).isOpen = true ∧ row ∈ labelRows flags below (level + 1)) := by
  rw [Label.rows, List.mem_cons]
  refine or_congr Iff.rfl ?_
  by_cases hopen : (caption.toggle flags).isOpen = true
  · rw [if_pos hopen, and_iff_right hopen]
  · rw [if_neg hopen]
    exact iff_of_false List.not_mem_nil fun h => hopen h.1

/-! ### The rows of a view are those of the forest -/

/-- A map shows the rows of its labels, provided its groups do. -/
theorem rowsAt_viewMap {rules : DisplayRules} {flags : Flags} {fields : List (String × Value)}
    {path : Path} {depth : Nat} {groups : (String → Value → Bool) → List Group}
    {below : (String → Value → Bool) → List Label}
    (h : ∀ shown level, groupRows (groups shown) level = labelRows flags (below shown) level)
    (level : Nat) :
    (viewMap rules flags fields path depth groups).rowsAt level =
      labelRows flags (mapLabels rules fields path below) level := by
  unfold viewMap mapLabels
  cases rules.tagKeys.tagOf fields with
  | none =>
    -- A fragment has no row of its own, so its groups stay at its level.
    exact h _ level
  | some kind =>
    simp only [Visual.rowsAt, labelRows, Label.rows, List.append_nil]
    have htoggle : (Caption.ofNode rules fields path kind).toggle flags =
        if fields.any fun (name, value) => rules.showsField name value then
          .ofOpen (flags ⟨.node, path⟩)
        else .static := rfl
    rw [← htoggle, List.cons.injEq]
    refine ⟨rfl, ?_⟩
    by_cases hopen : ((Caption.ofNode rules fields path kind).toggle flags).isOpen = true
    · rw [if_pos hopen, if_pos hopen]
      exact h _ (level + 1)
    · rw [if_neg hopen, if_neg hopen]
      rfl

mutual

/-- **The rows of a view.** They are those of the forest of the value. -/
theorem rowsAt_view (rules : DisplayRules) (flags : Flags) (value : Value) (path : Path)
    (depth level : Nat) :
    (view rules flags value path depth).rowsAt level =
      labelRows flags (labels rules value path) level := by
  -- by the mutual recursion of the rendering: one lemma for each of its functions
  cases value with
  | map fields =>
    simp only [view, labels]
    exact rowsAt_viewMap (fun shown level =>
      groupRows_viewFields rules flags fields shown path (depth + 1) level) level
  | list items => exact groupRows_viewElements rules flags items path 0 (depth + 1) level
  | null | bool b | int n | float x | str s => rfl

/-- The rows of a group. -/
theorem rowsAt_viewBody (rules : DisplayRules) (flags : Flags) (value : Value) (own : Path)
    (name : String) (depth level : Nat) :
    (Group.mk own depth name (viewBody rules flags value own depth)).rowsAt level =
      (Label.mk (.ofGroup own name value) (bodyLabels rules value own)).rows flags level := by
  cases value with
  | list items =>
    simp only [Group.rowsAt, Label.rows, viewBody, bodyLabels]
    cases items with
    | nil => rfl
    | cons item rest =>
      simp only [List.isEmpty_cons, Bool.false_eq_true, if_false]
      rw [List.cons.injEq]
      refine ⟨rfl, ?_⟩
      have htoggle : ((Caption.ofGroup own name (.list (item :: rest))).toggle flags).isOpen =
          flags ⟨.group, own⟩ := Toggle.isOpen_ofOpen _
      rw [htoggle]
      by_cases hopen : flags ⟨.group, own⟩ = true
      · rw [if_pos hopen, if_pos hopen]
        exact itemRows_viewItems rules flags (item :: rest) own 0 (depth + 1) (level + 1)
      · rw [if_neg hopen, if_neg hopen]
        rfl
  | map fields =>
    simp only [Group.rowsAt, Label.rows, viewBody, bodyLabels]
    rw [List.cons.injEq]
    refine ⟨rfl, ?_⟩
    have htoggle : ((Caption.ofGroup own name (.map fields)).toggle flags).isOpen =
        flags ⟨.group, own⟩ := Toggle.isOpen_ofOpen _
    rw [htoggle]
    by_cases hopen : flags ⟨.group, own⟩ = true
    · rw [if_pos hopen, if_pos hopen]
      simp only [Body.rowsAt, itemRows, List.append_nil]
      -- The map in a group is its only item, at the path of the group itself.
      exact rowsAt_viewMap
        (fun shown level => groupRows_viewFields rules flags fields shown own (depth + 2) level)
        (level + 1)
    · rw [if_neg hopen, if_neg hopen]
      rfl
  | null | bool b | int n | float x | str s => rfl

/-- The case of the fields of an object. -/
theorem groupRows_viewFields (rules : DisplayRules) (flags : Flags)
    (fields : List (String × Value)) (shown : String → Value → Bool) (path : Path)
    (depth level : Nat) :
    groupRows (viewFields rules flags fields shown path depth) level =
      labelRows flags (fieldLabels rules fields shown path) level := by
  match fields with
  | [] => rfl
  | (name, value) :: rest =>
    simp only [viewFields, fieldLabels]
    by_cases hshown : shown name value = true
    · rw [if_pos hshown, if_pos hshown, groupRows, labelRows, rowsAt_viewBody,
        groupRows_viewFields rules flags rest shown path depth level]
    · rw [if_neg hshown, if_neg hshown]
      exact groupRows_viewFields rules flags rest shown path depth level

theorem groupRows_viewElements (rules : DisplayRules) (flags : Flags) (items : List Value)
    (path : Path) (i depth level : Nat) :
    groupRows (viewElements rules flags items path i depth) level =
      labelRows flags (elementLabels rules items path i) level := by
  match items with
  | [] => rfl
  | value :: rest =>
    simp only [viewElements, elementLabels, groupRows, labelRows]
    rw [rowsAt_viewBody, groupRows_viewElements rules flags rest path (i + 1) depth level]

theorem itemRows_viewItems (rules : DisplayRules) (flags : Flags) (items : List Value)
    (own : Path) (i depth level : Nat) :
    itemRows (viewItems rules flags items own i depth) level =
      labelRows flags (itemLabels rules items own i) level := by
  match items with
  | [] => rfl
  | value :: rest =>
    simp only [viewItems, itemLabels, itemRows]
    rw [labelRows_append, rowsAt_view, itemRows_viewItems rules flags rest own (i + 1) depth level]

end

/-- The rows of a whole tree. -/
theorem rows_viewRoot (rules : DisplayRules) (flags : Flags) (tree : Option Value) :
    (viewRoot rules flags tree).rows = labelRows flags (rootLabels rules tree) 0 := by
  cases tree with
  | none => rfl
  | some value => exact rowsAt_view rules flags value [] 0 0

/-- The rows that a pass shows. -/
theorem rows_renderRoot (rules : DisplayRules) (tree : Option Value) (store : ExpansionStore) :
    (renderRoot rules tree store).1.rows =
      labelRows (store.flags rules) (rootLabels rules tree) 0 := by
  rw [renderRoot_fst, rows_viewRoot]

/-- The rows that a pass shows are those of the flags that it leaves. -/
theorem rows_renderRoot_flags {rules : DisplayRules} {tree : Option Value} {store : ExpansionStore}
    (h : store.SeenBounded) :
    (renderRoot rules tree store).1.rows =
      labelRows ((renderRoot rules tree store).2.flags rules) (rootLabels rules tree) 0 := by
  rw [← rows_viewRoot, viewRoot_flags_renderRoot h, renderRoot_fst]

/-! ### Toggles and levels -/

mutual

/-- A row with a toggle shows the flag of its key. -/
theorem Label.toggle_of_mem_rows {flags : Flags} {label : Label} {level : Nat} {row : Row}
    (hrow : row ∈ label.rows flags level) (htoggle : row.toggle.isToggleable = true) :
    row.toggle = .ofOpen (flags row.key) := by
  match label with
  | .mk caption below =>
    rcases Label.mem_rows.1 hrow with rfl | ⟨-, hbelow⟩
    · -- the first row: a caption that can be opened shows the flag of its key
      show caption.toggle flags = .ofOpen (flags caption.key)
      have hopens : (caption.toggle flags).isToggleable = true := htoggle
      rw [Caption.isToggleable_toggle] at hopens
      rw [Caption.toggle, if_pos hopens]
    · exact toggle_of_mem_labelRows hbelow htoggle

/-- A row that can be toggled is open as the flag of its key says. -/
theorem toggle_of_mem_labelRows {flags : Flags} {labels : List Label} {level : Nat} {row : Row}
    (hrow : row ∈ labelRows flags labels level) (htoggle : row.toggle.isToggleable = true) :
    row.toggle = .ofOpen (flags row.key) := by
  match labels with
  | [] => exact absurd hrow List.not_mem_nil
  | label :: rest =>
    rw [labelRows, List.mem_append] at hrow
    rcases hrow with hrow | hrow
    · exact Label.toggle_of_mem_rows hrow htoggle
    · exact toggle_of_mem_labelRows hrow htoggle

end

mutual

/-- No row of a label lies above the label. -/
theorem Label.level_le_of_mem_rows {flags : Flags} {label : Label} {level : Nat} {row : Row}
    (hrow : row ∈ label.rows flags level) : level ≤ row.level := by
  match label with
  | .mk caption below =>
    rcases Label.mem_rows.1 hrow with rfl | ⟨-, hbelow⟩
    · exact Nat.le_refl level
    · have hlevel : level + 1 ≤ row.level := level_le_of_mem_labelRows hbelow
      omega

/-- No row of labels stands further out than the labels themselves. -/
theorem level_le_of_mem_labelRows {flags : Flags} {labels : List Label} {level : Nat} {row : Row}
    (hrow : row ∈ labelRows flags labels level) : level ≤ row.level := by
  match labels with
  | [] => exact absurd hrow List.not_mem_nil
  | label :: rest =>
    rw [labelRows, List.mem_append] at hrow
    rcases hrow with hrow | hrow
    · exact Label.level_le_of_mem_rows hrow
    · exact level_le_of_mem_labelRows hrow

end

/-- The first row of a forest stands at the level of the forest. -/
theorem level_of_mem_head?_labelRows {flags : Flags} {labels : List Label} {level : Nat} {row : Row}
    (hrow : row ∈ (labelRows flags labels level).head?) : row.level = level := by
  match labels with
  | [] => exact nomatch hrow
  | .mk caption below :: rest =>
    rw [labelRows, Label.rows, List.cons_append, List.head?_cons, Option.mem_some_iff] at hrow
    rw [← hrow]
    rfl

/-! ### The labels that a pass visits -/

/-- The keys of those rows that have a toggle. -/
def toggleKeysOf (rows : List Row) : List LabelKey :=
  (rows.filter fun row => row.toggle.isToggleable).map Row.key

/-- The keys that can be toggled are those of the parts, one after the other. -/
theorem toggleKeysOf_append (first second : List Row) :
    toggleKeysOf (first ++ second) = toggleKeysOf first ++ toggleKeysOf second := by
  unfold toggleKeysOf
  rw [List.filter_append, List.map_append]

/-- The keys that can be toggled, row by row. -/
theorem toggleKeysOf_cons (row : Row) (rows : List Row) :
    toggleKeysOf (row :: rows) =
      (if row.toggle.isToggleable then [row.key] else []) ++ toggleKeysOf rows := by
  unfold toggleKeysOf
  by_cases h : row.toggle.isToggleable = true
  · rw [List.filter_cons, if_pos h, if_pos h]; rfl
  · rw [List.filter_cons, if_neg h, if_neg h]; rfl

/-- A key can be toggled where a row with it can. -/
theorem mem_toggleKeysOf {rows : List Row} {key : LabelKey} :
    key ∈ toggleKeysOf rows ↔
      ∃ row ∈ rows, row.key = key ∧ row.toggle.isToggleable = true := by
  unfold toggleKeysOf
  simp only [List.mem_map, List.mem_filter]
  constructor
  · rintro ⟨row, ⟨hrow, htoggle⟩, hkey⟩
    exact ⟨row, hrow, hkey, htoggle⟩
  · rintro ⟨row, hrow, hkey, htoggle⟩
    exact ⟨row, ⟨hrow, htoggle⟩, hkey⟩

mutual

/-- The labels of a visual that can be opened or closed are its rows with a toggle. -/
theorem toggleKeys_eq_rowsAt (visual : Visual) (level : Nat) :
    visual.toggleKeys = toggleKeysOf (visual.rowsAt level) := by
  match visual with
  | .empty => rfl
  | .node path depth kind toggle active snippet groups =>
    rw [Visual.toggleKeys, Visual.rowsAt, toggleKeysOf_cons,
      groupToggleKeys_eq_rows groups (level + 1)]
  | .fragment groups =>
    rw [Visual.toggleKeys, Visual.rowsAt, groupToggleKeys_eq_rows groups level]

/-- The keys that a group visits are those of the rows it becomes that can be toggled. -/
theorem Group.toggleKeys_eq_rowsAt (group : Group) (level : Nat) :
    group.toggleKeys = toggleKeysOf (group.rowsAt level) := by
  match group with
  | .mk path depth name body =>
    rw [Group.toggleKeys, Group.rowsAt, toggleKeysOf_cons]
    exact Body.toggleKeys_eq_rowsAt body path (level + 1)

/-- The keys that a body visits: that of its own toggle, and those of its rows. -/
theorem Body.toggleKeys_eq_rowsAt (body : Body) (own : Path) (level : Nat) :
    body.toggleKeys own =
      (if body.toggle.isToggleable then [⟨.group, own⟩] else []) ++
        toggleKeysOf (body.rowsAt level) := by
  match body with
  | .literal text => rfl
  | .empty => rfl
  | .children isOpen count items =>
    rw [Body.toggleKeys, Body.rowsAt, itemToggleKeys_eq_rows items level, Body.toggle,
      Toggle.isToggleable_ofOpen]
    rfl

/-- The same for groups one after the other. -/
theorem groupToggleKeys_eq_rows (groups : List Group) (level : Nat) :
    groupToggleKeys groups = toggleKeysOf (groupRows groups level) := by
  match groups with
  | [] => rfl
  | group :: rest =>
    rw [groupToggleKeys, groupRows, toggleKeysOf_append, Group.toggleKeys_eq_rowsAt group level,
      groupToggleKeys_eq_rows rest level]

theorem itemToggleKeys_eq_rows (items : List Visual) (level : Nat) :
    itemToggleKeys items = toggleKeysOf (itemRows items level) := by
  match items with
  | [] => rfl
  | visual :: rest =>
    rw [itemToggleKeys, itemRows, toggleKeysOf_append, toggleKeys_eq_rowsAt visual level,
      itemToggleKeys_eq_rows rest level]

end

/-- **What a pass visits.** The labels of a visual that can be opened or closed are exactly those
whose row has a toggle. -/
theorem mem_toggleKeys_iff {visual : Visual} {key : LabelKey} :
    key ∈ visual.toggleKeys ↔
      ∃ row ∈ visual.rows, row.key = key ∧ row.toggle.isToggleable = true := by
  rw [toggleKeys_eq_rowsAt visual 0, mem_toggleKeysOf]
  rfl

end TreeOutline
