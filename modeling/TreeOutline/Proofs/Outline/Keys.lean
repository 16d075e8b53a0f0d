import Mathlib.Data.List.Nodup
import TreeOutline.Proofs.Outline.Label

namespace TreeOutline

/-!
# Keys tell labels apart

No two labels of a tree have the same key, provided the field names of each of its maps are
distinct (`Value.WellFormed`).

* `labelKeys` — the keys of a forest, those of closed labels included.
* `LabelKey.Within` — which keys a value at a path may put into the forest: nodes at the path or
  below it, groups only below it.  A group and the node in it share a path, and this is what keeps
  them apart from everything else there.
* `labels_within`, `labels_nodup` — the forest of a value keeps within its path, and its keys are
  distinct.
* `LabelsNested`, `labels_nested` — below a label there are only labels at its path or below it.
* `rowKeys_nodup` — the rows that a pass shows have distinct keys, so a key has one index
  (`index_eq_of_key_eq`).
-/

mutual

/-- The keys of a label and of everything below it. -/
def Label.keys : Label → List LabelKey
  | .mk caption below => caption.key :: labelKeys below

/-- The keys of a forest. -/
def labelKeys : List Label → List LabelKey
  | [] => []
  | label :: rest => label.keys ++ labelKeys rest

end

/-- The keys of labels are those of their parts, one after the other. -/
theorem labelKeys_append (first second : List Label) :
    labelKeys (first ++ second) = labelKeys first ++ labelKeys second := by
  induction first with
  | nil => rfl
  | cons label rest ih => simp only [List.cons_append, labelKeys, ih, List.append_assoc]

/-! ### Keys at a path and below it -/

/-- A label that a value at `path` may have: a node at the path or below it, a group below it. -/
def LabelKey.Within (key : LabelKey) (path : Path) : Prop :=
  path <+: key.path ∧ (key.role = .group → key.path ≠ path)

/-- A key below one step of a path is not at the path. -/
theorem ne_of_step_prefix {path other : Path} {step : Step} (h : path ++ [step] <+: other) :
    other ≠ path := by
  rintro rfl
  have hlength : (other ++ [step]).length ≤ other.length := h.length_le
  rw [List.length_append, List.length_singleton] at hlength
  omega

/-- A key below one step of a path lies within the path. -/
theorem LabelKey.within_of_step {key : LabelKey} {path : Path} {step : Step}
    (h : path ++ [step] <+: key.path) : key.Within path :=
  ⟨(List.prefix_append path [step]).trans h, fun _ => ne_of_step_prefix h⟩

/-- A path goes through one step of another at most. -/
theorem step_eq_of_prefix {path other : Path} {a b : Step} (ha : path ++ [a] <+: other)
    (hb : path ++ [b] <+: other) : a = b := by
  have hprefix : path ++ [a] <+: path ++ [b] :=
    List.prefix_of_prefix_length_le ha hb (by simp)
  have heq : path ++ [a] = path ++ [b] := hprefix.eq_of_length (by simp)
  exact List.singleton_inj.1 (List.append_cancel_left heq)

/-! ### Where the labels of a value are -/

/-- The labels of a map lie within its path, provided those of its fields are a step below. -/
theorem mapLabels_within {rules : DisplayRules} {fields : List (String × Value)} {path : Path}
    {groups : (String → Value → Bool) → List Label}
    (h : ∀ shown, ∀ key ∈ labelKeys (groups shown), ∃ step, path ++ [step] <+: key.path) :
    ∀ key ∈ labelKeys (mapLabels rules fields path groups), key.Within path := by
  intro key hkey
  unfold mapLabels at hkey
  cases htag : rules.tagKeys.tagOf fields with
  | none =>
    rw [htag] at hkey
    obtain ⟨step, hstep⟩ := h _ key hkey
    exact LabelKey.within_of_step hstep
  | some kind =>
    rw [htag] at hkey
    simp only [labelKeys, Label.keys, List.append_nil, List.mem_cons] at hkey
    rcases hkey with rfl | hkey
    · -- the label of the map itself is at the path, and it is a node's
      exact ⟨List.prefix_rfl, fun hrole => absurd hrole (by simp [Caption.ofNode])⟩
    · obtain ⟨step, hstep⟩ := h _ key hkey
      exact LabelKey.within_of_step hstep

mutual

/-- The labels of a value lie within its path. -/
theorem labels_within (rules : DisplayRules) (value : Value) (path : Path) :
    ∀ key ∈ labelKeys (labels rules value path), key.Within path := by
  cases value with
  | map fields =>
    rw [labels]
    -- below a map the next step is a name, below a list it is an index
    refine mapLabels_within fun shown key hkey => ?_
    obtain ⟨field, -, hstep⟩ := fieldLabels_below rules fields shown path key hkey
    exact ⟨.field field.1, hstep⟩
  | list items =>
    intro key hkey
    obtain ⟨j, -, hstep⟩ := elementLabels_below rules items path 0 key hkey
    exact LabelKey.within_of_step hstep
  | null | bool b | int n | float x | str s => exact fun key hkey => absurd hkey List.not_mem_nil

/-- The labels below a group lie within its path. -/
theorem bodyLabels_within (rules : DisplayRules) (value : Value) (own : Path) :
    ∀ key ∈ labelKeys (bodyLabels rules value own), key.Within own := by
  cases value with
  | map fields =>
    rw [bodyLabels]
    refine mapLabels_within fun shown key hkey => ?_
    obtain ⟨field, -, hstep⟩ := fieldLabels_below rules fields shown own key hkey
    exact ⟨.field field.1, hstep⟩
  | list items =>
    intro key hkey
    obtain ⟨j, -, hstep⟩ := itemLabels_below rules items own 0 key hkey
    exact LabelKey.within_of_step hstep
  | null | bool b | int n | float x | str s => exact fun key hkey => absurd hkey List.not_mem_nil

/-- The labels of fields lie below a step to one of them. -/
theorem fieldLabels_below (rules : DisplayRules) (fields : List (String × Value))
    (shown : String → Value → Bool) (path : Path) :
    ∀ key ∈ labelKeys (fieldLabels rules fields shown path),
      ∃ field ∈ fields, path.field field.1 <+: key.path := by
  intro key hkey
  match fields with
  | [] => exact absurd hkey List.not_mem_nil
  | (name, value) :: rest =>
    rw [fieldLabels] at hkey
    by_cases hshown : shown name value = true
    · rw [if_pos hshown, labelKeys, Label.keys, List.cons_append, List.mem_cons,
        List.mem_append, Caption.key_ofGroup] at hkey
      rcases hkey with rfl | hkey | hkey
      · exact ⟨(name, value), List.mem_cons_self, List.prefix_rfl⟩
      · have hwithin := bodyLabels_within rules value (path.field name) key hkey
        exact ⟨(name, value), List.mem_cons_self, hwithin.1⟩
      · obtain ⟨field, hfield, hstep⟩ := fieldLabels_below rules rest shown path key hkey
        exact ⟨field, List.mem_cons_of_mem _ hfield, hstep⟩
    · -- a field that is not shown has no label
      rw [if_neg hshown] at hkey
      obtain ⟨field, hfield, hstep⟩ := fieldLabels_below rules rest shown path key hkey
      exact ⟨field, List.mem_cons_of_mem _ hfield, hstep⟩

/-- The labels of elements lie below a step to one of them. -/
theorem elementLabels_below (rules : DisplayRules) (items : List Value) (path : Path) (i : Nat) :
    ∀ key ∈ labelKeys (elementLabels rules items path i),
      ∃ j, i ≤ j ∧ path.index j <+: key.path := by
  intro key hkey
  match items with
  | [] => exact absurd hkey List.not_mem_nil
  | value :: rest =>
    rw [elementLabels, labelKeys, Label.keys, List.cons_append, List.mem_cons,
      List.mem_append, Caption.key_ofGroup] at hkey
    -- the element's own label, the labels in its body, the later elements
    rcases hkey with rfl | hkey | hkey
    · exact ⟨i, Nat.le_refl i, List.prefix_rfl⟩
    · exact ⟨i, Nat.le_refl i, (bodyLabels_within rules value (path.index i) key hkey).1⟩
    · obtain ⟨j, hj, hstep⟩ := elementLabels_below rules rest path (i + 1) key hkey
      exact ⟨j, by omega, hstep⟩

/-- The labels of items lie below a step to one of them. -/
theorem itemLabels_below (rules : DisplayRules) (items : List Value) (own : Path) (i : Nat) :
    ∀ key ∈ labelKeys (itemLabels rules items own i),
      ∃ j, i ≤ j ∧ own.index j <+: key.path := by
  intro key hkey
  match items with
  | [] => exact absurd hkey List.not_mem_nil
  | value :: rest =>
    rw [itemLabels, labelKeys_append, List.mem_append] at hkey
    rcases hkey with hkey | hkey
    · exact ⟨i, Nat.le_refl i, (labels_within rules value (own.index i) key hkey).1⟩
    · obtain ⟨j, hj, hstep⟩ := itemLabels_below rules rest own (i + 1) key hkey
      exact ⟨j, by omega, hstep⟩

end

/-- The labels of fields lie a step below the path of the map. -/
theorem fieldLabels_step (rules : DisplayRules) (fields : List (String × Value)) (path : Path)
    (shown : String → Value → Bool) :
    ∀ key ∈ labelKeys (fieldLabels rules fields shown path),
      ∃ step, path ++ [step] <+: key.path := by
  intro key hkey
  obtain ⟨field, -, hstep⟩ := fieldLabels_below rules fields shown path key hkey
  exact ⟨.field field.1, hstep⟩

/-! ### No key comes twice -/

/-- The keys of a map are distinct, provided those of its fields are distinct and a step below. -/
theorem mapLabels_nodup {rules : DisplayRules} {fields : List (String × Value)} {path : Path}
    {groups : (String → Value → Bool) → List Label}
    (h : ∀ shown, ∀ key ∈ labelKeys (groups shown), ∃ step, path ++ [step] <+: key.path)
    (hnodup : ∀ shown, (labelKeys (groups shown)).Nodup) :
    (labelKeys (mapLabels rules fields path groups)).Nodup := by
  unfold mapLabels
  cases rules.tagKeys.tagOf fields with
  | none => exact hnodup _
  | some kind =>
    simp only [labelKeys, Label.keys, List.append_nil, List.nodup_cons]
    refine ⟨fun hmem => ?_, hnodup _⟩
    -- the node's own key has the path itself, those below go at least one step on
    obtain ⟨step, hstep⟩ := h _ _ hmem
    exact ne_of_step_prefix hstep rfl

/-- The keys of a group are distinct, provided those below it are. -/
theorem groupKeys_nodup {rules : DisplayRules} {value : Value} {own : Path} (name : String)
    (hnodup : (labelKeys (bodyLabels rules value own)).Nodup) :
    (Label.mk (.ofGroup own name value) (bodyLabels rules value own)).keys.Nodup := by
  rw [Label.keys, List.nodup_cons, Caption.key_ofGroup]
  refine ⟨fun hmem => ?_, hnodup⟩
  exact (bodyLabels_within rules value own _ hmem).2 rfl rfl

/-- The keys of a group lie below the step that leads to it. -/
theorem groupKeys_below {rules : DisplayRules} {value : Value} {own : Path} {name : String}
    {key : LabelKey}
    (hkey : key ∈ (Label.mk (.ofGroup own name value) (bodyLabels rules value own)).keys) :
    own <+: key.path := by
  rw [Label.keys, List.mem_cons, Caption.key_ofGroup] at hkey
  rcases hkey with rfl | hkey
  · exact List.prefix_rfl
  · exact (bodyLabels_within rules value own key hkey).1

mutual

/-- **Distinct keys.** The labels of a well-formed value have pairwise distinct keys. -/
theorem labels_nodup (rules : DisplayRules) {value : Value} (path : Path)
    (wf : value.WellFormed) : (labelKeys (labels rules value path)).Nodup := by
  cases value with
  | map fields =>
    rw [Value.WellFormed] at wf
    exact mapLabels_nodup (fieldLabels_step rules fields path) fun shown =>
      fieldLabels_nodup rules shown path wf.1 wf.2
  | list items => exact elementLabels_nodup rules path 0 wf
  | null | bool b | int n | float x | str s => exact List.nodup_nil

/-- No key comes twice within a body; one case for each constructor of values. -/
theorem bodyLabels_nodup (rules : DisplayRules) {value : Value} (own : Path)
    (wf : value.WellFormed) : (labelKeys (bodyLabels rules value own)).Nodup := by
  cases value with
  | map fields =>
    rw [Value.WellFormed] at wf
    exact mapLabels_nodup (fieldLabels_step rules fields own) fun shown =>
      fieldLabels_nodup rules shown own wf.1 wf.2
  | list items => exact itemLabels_nodup rules own 0 wf
  | null | bool b | int n | float x | str s => exact List.nodup_nil

/-- No key comes twice among fields, since their names are told apart. -/
theorem fieldLabels_nodup (rules : DisplayRules) {fields : List (String × Value)}
    (shown : String → Value → Bool) (path : Path) (names : (fields.map Prod.fst).Nodup)
    (wf : Value.FieldsWellFormed fields) :
    (labelKeys (fieldLabels rules fields shown path)).Nodup := by
  match fields with
  | [] => exact List.nodup_nil
  | (name, value) :: rest =>
    rw [List.map_cons, List.nodup_cons] at names
    rw [Value.FieldsWellFormed] at wf
    have hrest := fieldLabels_nodup rules shown path names.2 wf.2
    rw [fieldLabels]
    by_cases hshown : shown name value = true
    · rw [if_pos hshown, labelKeys, List.nodup_append]
      refine ⟨groupKeys_nodup name (bodyLabels_nodup rules (path.field name) wf.1), hrest, ?_⟩
      rintro key hkey _ hother rfl
      obtain ⟨field, hfield, hstep⟩ := fieldLabels_below rules rest shown path key hother
      -- A key in both parts would lie below two steps, so the two fields would share a name.
      have hname : Step.field name = Step.field field.1 :=
        step_eq_of_prefix (groupKeys_below hkey) hstep
      rw [Step.field.injEq] at hname
      exact names.1 (List.mem_map.2 ⟨field, hfield, hname.symm⟩)
    · rw [if_neg hshown]
      exact hrest

/-- No key comes twice among elements, since their numbers are told apart. -/
theorem elementLabels_nodup (rules : DisplayRules) {items : List Value} (path : Path) (i : Nat)
    (wf : Value.ItemsWellFormed items) :
    (labelKeys (elementLabels rules items path i)).Nodup := by
  match items with
  | [] => exact List.nodup_nil
  | value :: rest =>
    rw [Value.ItemsWellFormed] at wf
    rw [elementLabels, labelKeys, List.nodup_append]
    refine ⟨groupKeys_nodup _ (bodyLabels_nodup rules (path.index i) wf.1),
      elementLabels_nodup rules path (i + 1) wf.2, ?_⟩
    rintro key hkey _ hother rfl
    -- every later key continues the path with a larger index
    obtain ⟨j, hj, hstep⟩ := elementLabels_below rules rest path (i + 1) key hother
    have hindex : Step.index i = Step.index j := step_eq_of_prefix (groupKeys_below hkey) hstep
    rw [Step.index.injEq] at hindex
    omega

/-- No key comes twice among the items of a list of nodes. -/
theorem itemLabels_nodup (rules : DisplayRules) {items : List Value} (own : Path) (i : Nat)
    (wf : Value.ItemsWellFormed items) :
    (labelKeys (itemLabels rules items own i)).Nodup := by
  match items with
  | [] => exact List.nodup_nil
  | value :: rest =>
    rw [Value.ItemsWellFormed] at wf
    rw [itemLabels, labelKeys_append, List.nodup_append]
    refine ⟨labels_nodup rules (own.index i) wf.1, itemLabels_nodup rules own (i + 1) wf.2, ?_⟩
    rintro key hkey _ hother rfl
    -- every later key continues the path with a larger index
    obtain ⟨j, hj, hstep⟩ := itemLabels_below rules rest own (i + 1) key hother
    have hindex : Step.index i = Step.index j :=
      step_eq_of_prefix (labels_within rules value (own.index i) key hkey).1 hstep
    rw [Step.index.injEq] at hindex
    omega

end

/-! ### Labels below a label -/

mutual

/-- Below the label, and below each label there, everything is at its path or below it. -/
def Label.Nested : Label → Prop
  | .mk caption below =>
    (∀ key ∈ labelKeys below, caption.key.path <+: key.path) ∧ LabelsNested below

/-- Each label of the forest is nested. -/
def LabelsNested : List Label → Prop
  | [] => True
  | label :: rest => label.Nested ∧ LabelsNested rest

end

/-- Labels that are nested one by one stay so when they are put behind each other. -/
theorem labelsNested_append {first second : List Label} (hfirst : LabelsNested first)
    (hsecond : LabelsNested second) : LabelsNested (first ++ second) := by
  induction first with
  | nil => exact hsecond
  | cons label rest ih => exact ⟨hfirst.1, ih hfirst.2⟩

/-- The labels of a map are nested, provided those of its fields are nested and a step below. -/
theorem mapLabels_nested {rules : DisplayRules} {fields : List (String × Value)} {path : Path}
    {groups : (String → Value → Bool) → List Label}
    (h : ∀ shown, ∀ key ∈ labelKeys (groups shown), ∃ step, path ++ [step] <+: key.path)
    (hnested : ∀ shown, LabelsNested (groups shown)) :
    LabelsNested (mapLabels rules fields path groups) := by
  unfold mapLabels
  cases rules.tagKeys.tagOf fields with
  | none => exact hnested _
  | some kind =>
    refine ⟨⟨fun key hkey => ?_, hnested _⟩, trivial⟩
    -- the keys below begin with the node's path
    obtain ⟨step, hstep⟩ := h _ key hkey
    exact (List.prefix_append path [step]).trans hstep

/-- A group is nested, provided the labels below it are. -/
theorem groupLabel_nested {rules : DisplayRules} {value : Value} {own : Path} (name : String)
    (hnested : LabelsNested (bodyLabels rules value own)) :
    (Label.mk (.ofGroup own name value) (bodyLabels rules value own)).Nested := by
  refine ⟨fun key hkey => ?_, hnested⟩
  rw [Caption.key_ofGroup]
  exact (bodyLabels_within rules value own key hkey).1

mutual

/-- **Nesting.** Below each label of a value there are only labels at its path or below it. -/
theorem labels_nested (rules : DisplayRules) (value : Value) (path : Path) :
    LabelsNested (labels rules value path) := by
  cases value with
  | map fields =>
    rw [labels]
    exact mapLabels_nested (fieldLabels_step rules fields path) fun shown =>
      fieldLabels_nested rules fields shown path
  | list items => exact elementLabels_nested rules items path 0
  | null | bool b | int n | float x | str s => exact trivial

/-- What is nested in a label lies below it, all through a body. -/
theorem bodyLabels_nested (rules : DisplayRules) (value : Value) (own : Path) :
    LabelsNested (bodyLabels rules value own) := by
  cases value with
  | map fields =>
    rw [bodyLabels]
    exact mapLabels_nested (fieldLabels_step rules fields own) fun shown =>
      fieldLabels_nested rules fields shown own
  | list items => exact itemLabels_nested rules items own 0
  | null | bool b | int n | float x | str s => exact trivial

/-- The case of the fields of an object. -/
theorem fieldLabels_nested (rules : DisplayRules) (fields : List (String × Value))
    (shown : String → Value → Bool) (path : Path) :
    LabelsNested (fieldLabels rules fields shown path) := by
  match fields with
  | [] => exact trivial
  | (name, value) :: rest =>
    have hrest := fieldLabels_nested rules rest shown path
    rw [fieldLabels]
    by_cases hshown : shown name value = true
    · rw [if_pos hshown]
      exact ⟨groupLabel_nested name (bodyLabels_nested rules value (path.field name)), hrest⟩
    · rw [if_neg hshown]
      exact hrest

theorem elementLabels_nested (rules : DisplayRules) (items : List Value) (path : Path) (i : Nat) :
    LabelsNested (elementLabels rules items path i) := by
  match items with
  | [] => exact trivial
  | value :: rest =>
    exact ⟨groupLabel_nested _ (bodyLabels_nested rules value (path.index i)),
      elementLabels_nested rules rest path (i + 1)⟩

theorem itemLabels_nested (rules : DisplayRules) (items : List Value) (own : Path) (i : Nat) :
    LabelsNested (itemLabels rules items own i) := by
  match items with
  | [] => exact trivial
  | value :: rest =>
    exact labelsNested_append (labels_nested rules value (own.index i))
      (itemLabels_nested rules rest own (i + 1))

end

/-! ### The keys of rows -/

mutual

/-- The rows of a label carry keys of the label, in the same order. -/
theorem Label.rowKeys_sublist (flags : Flags) (label : Label) (level : Nat) :
    ((label.rows flags level).map Row.key).Sublist label.keys := by
  match label with
  | .mk caption below =>
    rw [Label.rows, List.map_cons, Label.keys]
    refine List.Sublist.cons_cons caption.key ?_
    by_cases hopen : (caption.toggle flags).isOpen = true
    · rw [if_pos hopen]
      exact rowKeys_sublist flags below (level + 1)
    · -- a closed label leaves out all the rows below it
      rw [if_neg hopen]
      exact List.nil_sublist _

/-- The rows of a forest carry keys of the forest, in the same order. -/
theorem rowKeys_sublist (flags : Flags) (labels : List Label) (level : Nat) :
    ((labelRows flags labels level).map Row.key).Sublist (labelKeys labels) := by
  match labels with
  | [] => exact List.nil_sublist _
  | label :: rest =>
    rw [labelRows, List.map_append, labelKeys]
    exact (Label.rowKeys_sublist flags label level).append (rowKeys_sublist flags rest level)

end

/-- The key of a row is one of the forest. -/
theorem key_mem_of_mem_labelRows {flags : Flags} {labels : List Label} {level : Nat} {row : Row}
    (hrow : row ∈ labelRows flags labels level) : row.key ∈ labelKeys labels :=
  (rowKeys_sublist flags labels level).subset (List.mem_map_of_mem hrow)

/-- The trees that a parser may hand over: in each of their maps the field names are distinct. -/
def WellFormedTree (tree : Option Value) : Prop := ∀ value ∈ tree, value.WellFormed

/-- No object of the sample has a name twice. -/
theorem sampleTree_wellFormed : WellFormedTree (some sampleTree) := by
  intro value hvalue
  rw [← Option.mem_some_iff.1 hvalue]
  simp [sampleTree, Value.WellFormed, Value.ItemsWellFormed, Value.FieldsWellFormed]

/-- No two labels of a tree have the same key. -/
theorem rootLabels_nodup (rules : DisplayRules) {tree : Option Value} (wf : WellFormedTree tree) :
    (labelKeys (rootLabels rules tree)).Nodup := by
  cases tree with
  | none => exact List.nodup_nil
  | some value => exact labels_nodup rules [] (wf value rfl)

/-- What is nested in a label of a tree has a longer path of the same front. -/
theorem rootLabels_nested (rules : DisplayRules) (tree : Option Value) :
    LabelsNested (rootLabels rules tree) := by
  cases tree with
  | none => exact trivial
  | some value => exact labels_nested rules value []

/-- **Rows are told apart by their keys**, whatever the store holds. -/
theorem rowKeys_nodup (rules : DisplayRules) {tree : Option Value} (wf : WellFormedTree tree)
    (store : ExpansionStore) : ((renderRoot rules tree store).1.rows.map Row.key).Nodup := by
  rw [rows_renderRoot]
  exact (rowKeys_sublist _ _ 0).nodup (rootLabels_nodup rules wf)

/-- Where keys are distinct, a key has one index. -/
theorem index_eq_of_key_eq {rows : List Row} (hnodup : (rows.map Row.key).Nodup) {i j : Nat}
    (hi : i < rows.length) (hj : j < rows.length) (hkey : rows[i].key = rows[j].key) : i = j := by
  have hi' : i < (rows.map Row.key).length := by rwa [List.length_map]
  have hj' : j < (rows.map Row.key).length := by rwa [List.length_map]
  have heq : (rows.map Row.key)[i] = (rows.map Row.key)[j] := by
    rw [List.getElem_map, List.getElem_map, hkey]
  exact hnodup.getElem_inj_iff.1 heq

end TreeOutline
