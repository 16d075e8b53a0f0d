import TreeOutline.Proofs.Outline.Keys
import TreeOutline.Proofs.Tree.Located

namespace TreeOutline

/-!
# What is rendered is what is in the tree

* `TagKeys.Tags`, `DisplayRules.Shows` — the kind of a map and the fields that a node shows, said
  without the functions that look for them.
* `Visual.Depicts`, `Group.Depicts` — what a visual shows of a value at a path, and what a group
  shows of a field's value.
* `Visual.parts` — all visuals and groups inside a visual.
* `view_depicts`, `viewBody_depicts` — a view depicts its value.
* `view_parts` — every part of a view is itself the view of a value in that value, by induction
  over the view.
* `view_resolved` — **so every part of a view of a value in a tree depicts the value that its path
  leads to**.
* `renderRoot_faithful` — so does every part of what a pass shows.
-/

/-! ### Kinds and shown fields -/

/-- The kind of the fields is the string under the first tag name that has a string. -/
def TagKeys.Tags (tags : TagKeys) (fields : List (String × Value)) (kind : String) : Prop :=
  ∃ before name after, tags.names = before ++ name :: after ∧
    fields.lookup name = some (.str kind) ∧
    ∀ other ∈ before, ∀ text, fields.lookup other ≠ some (.str text)

theorem Value.asString?_eq_some_iff {value : Value} {text : String} :
    value.asString? = some text ↔ value = .str text := by
  cases value <;> simp [asString?]

/-- The tag that is found is the string under the first tag key that has one. -/
theorem TagKeys.tagOf_eq_some_iff {tags : TagKeys} {fields : List (String × Value)}
    {kind : String} : tags.tagOf fields = some kind ↔ tags.Tags fields kind := by
  have hstring (name text : String) :
      (fields.lookup name).bind Value.asString? = some text ↔
        fields.lookup name = some (.str text) := by
    simp [Option.bind_eq_some_iff, Value.asString?_eq_some_iff]
  simp only [tagOf, List.findSome?_eq_some_iff, Tags, hstring, Option.eq_none_iff_forall_ne_some,
    ne_eq]

/-- The value is a map that has a kind. -/
def Value.IsTagged (tags : TagKeys) (value : Value) : Prop :=
  ∃ fields kind, value = .map fields ∧ tags.Tags fields kind

/-- A value has a kind exactly where it is a tagged object. -/
theorem Value.isSome_kind?_iff {tags : TagKeys} {value : Value} :
    (value.kind? tags).isSome = true ↔ value.IsTagged tags := by
  cases value <;> simp [kind?, IsTagged, Option.isSome_iff_exists, TagKeys.tagOf_eq_some_iff]

/-- A node shows the field: all fields are shown, or its value is a map with a kind or a list that
begins with one, or its name is in the whitelist. -/
def DisplayRules.Shows (rules : DisplayRules) (name : String) (value : Value) : Prop :=
  rules.variant = .all ∨ value.IsTagged rules.tagKeys ∨
    (∃ first rest, value = .list (first :: rest) ∧ first.IsTagged rules.tagKeys) ∨
    name ∈ rules.whitelist

/-- A value is a tree node where it is tagged or a list whose first item is. -/
theorem Value.isTreeNode_iff {tags : TagKeys} {value : Value} :
    value.isTreeNode tags = true ↔
      value.IsTagged tags ∨ ∃ first rest, value = .list (first :: rest) ∧ first.IsTagged tags := by
  match value with
  | .list [] => simp [isTreeNode, IsTagged]
  | .list (first :: rest) => simp [isTreeNode, isSome_kind?_iff, IsTagged]
  | .map fields => simp [isTreeNode, isSome_kind?_iff]
  | .null | .bool _ | .int _ | .float _ | .str _ => simp [isTreeNode, kind?, IsTagged]

/-- The check for shown fields decides what the rules say. -/
theorem DisplayRules.showsField_iff {rules : DisplayRules} {name : String} {value : Value} :
    rules.showsField name value = true ↔ rules.Shows name value := by
  unfold showsField Shows
  cases rules.variant <;> simp [Value.isTreeNode_iff, or_assoc]

instance (rules : DisplayRules) (name : String) (value : Value) :
    Decidable (rules.Shows name value) :=
  decidable_of_iff _ DisplayRules.showsField_iff

/-! ### What a value looks like -/

/-- The name of a group and its path. -/
def Group.entry (group : Group) : String × Path := (group.name, group.path)

/-- The names of fields and their paths in the value at `path`. -/
def fieldEntries (fields : List (String × Value)) (path : Path) : List (String × Path) :=
  fields.map fun field => (field.1, path.field field.1)

/-- A node with this kind, toggle and groups stands for a map with these fields. -/
structure NodeDepicts (rules : DisplayRules) (fields : List (String × Value)) (path : Path)
    (kind : String) (toggle : Toggle) (groups : List Group) : Prop where
  tagged : rules.tagKeys.Tags fields kind
  static_iff : toggle = .static ↔ ∀ field ∈ fields, ¬ rules.Shows field.1 field.2
  opened : toggle = .opened →
    groups.map Group.entry =
      fieldEntries (fields.filter fun field => rules.Shows field.1 field.2) path
  not_opened : toggle ≠ .opened → groups = []

/-- What a visual shows of the value at `path`: nothing of a scalar, a label for a map with a kind,
and otherwise the groups of all fields or of all items. -/
def Visual.Depicts (visual : Visual) (rules : DisplayRules) (value : Value) (path : Path) : Prop :=
  match visual with
  | .empty => value.isStructural = false
  | .node own _ kind toggle _ _ groups =>
    own = path ∧ ∃ fields, value = .map fields ∧
      NodeDepicts rules fields path kind toggle groups
  | .fragment groups =>
    (∃ fields, value = .map fields ∧ ¬ value.IsTagged rules.tagKeys ∧
      groups.map Group.entry = fieldEntries fields path) ∨
    ∃ items, value = .list items ∧
      groups.map Group.entry = items.mapIdx fun i _ => (toString i, path.index i)

/-- What a group shows of a field's value: the text of a scalar, and the items of a list or the map
itself as they are rendered while the group is open. -/
structure Group.Depicts (group : Group) (rules : DisplayRules) (store : ExpansionStore)
    (value : Value) : Prop where
  literal_iff : ∀ text,
    group.body = .literal text ↔ value.isStructural = false ∧ text = Json.write value
  empty_iff : group.body = .empty ↔ value = .list []
  list : ∀ items, value = .list items → items ≠ [] → ∃ isOpen,
    group.body = .children isOpen items.length
      (if isOpen then items.mapIdx fun i item =>
        (render rules item (group.path.index i) (group.depth + 1) store).1
      else [])
  map : ∀ fields, value = .map fields → ∃ isOpen,
    group.body = .children isOpen 1
      (if isOpen then [(render rules value group.path (group.depth + 1) store).1] else [])

/-! ### Views depict their values -/

section

variable {rules : DisplayRules} {flags : Flags}

/-- The groups of an object are its shown fields, in order. -/
theorem entries_viewFields (fields : List (String × Value)) (shown : String → Value → Bool)
    (path : Path) (depth : Nat) :
    (viewFields rules flags fields shown path depth).map Group.entry =
      fieldEntries (fields.filter fun field => shown field.1 field.2) path := by
  induction fields with
  | nil => rfl
  | cons field rest ih =>
    rw [viewFields, List.filter_cons]
    -- a field that is not shown is skipped by both sides
    cases shown field.1 field.2 with
    | true => exact congrArg (_ :: ·) ih
    | false => exact ih

/-- The groups of a list are its positions, counted on from the first one. -/
theorem entries_viewElements (items : List Value) (path : Path) (i depth : Nat) :
    (viewElements rules flags items path i depth).map Group.entry =
      items.mapIdx fun j _ => (toString (i + j), path.index (i + j)) := by
  induction items generalizing i with
  | nil => rfl
  | cons item rest ih =>
    rw [viewElements, List.map_cons, ih, List.mapIdx_cons]
    simp only [Nat.add_zero, Nat.add_assoc, Nat.add_comm 1]
    rfl

/-- The items of a list are viewed one by one, each at its own path. -/
theorem viewItems_eq_mapIdx (items : List Value) (own : Path) (i depth : Nat) :
    viewItems rules flags items own i depth =
      items.mapIdx fun j item => view rules flags item (own.index (i + j)) depth := by
  induction items generalizing i with
  | nil => rfl
  | cons item rest ih =>
    rw [viewItems, ih, List.mapIdx_cons]
    simp only [Nat.add_zero, Nat.add_assoc, Nat.add_comm 1]

/-- A toggle that is made only under a condition is static exactly where the condition fails. -/
theorem Toggle.ite_ofOpen_eq_static_iff {p : Prop} [Decidable p] {isOpen : Bool} :
    (if p then Toggle.ofOpen isOpen else .static) = .static ↔ ¬ p := by
  by_cases hp : p <;> cases isOpen <;> simp [hp, ofOpen]

/-- A map is depicted by its view, given the entries of its groups. -/
theorem viewMap_depicts {fields : List (String × Value)} {path : Path} {depth : Nat}
    {groups : (String → Value → Bool) → List Group}
    (hgroups : ∀ shown, (groups shown).map Group.entry =
      fieldEntries (fields.filter fun field => shown field.1 field.2) path) :
    (viewMap rules flags fields path depth groups).Depicts rules (.map fields) path := by
  unfold viewMap
  cases htag : rules.tagKeys.tagOf fields with
  | none =>
    refine .inl ⟨fields, rfl, ?_, ?_⟩
    · rw [← Value.isSome_kind?_iff, Value.kind?, htag]
      exact Bool.false_ne_true
    · rw [hgroups, List.filter_true]
  | some kind =>
    refine ⟨rfl, fields, rfl, ?_⟩
    -- The groups are filtered by the program's test, the specification by what it decides.
    have hshown : (fields.filter fun field => rules.showsField field.1 field.2) =
        fields.filter fun field => rules.Shows field.1 field.2 := by
      refine List.filter_congr fun field _ => ?_
      rw [Bool.eq_iff_iff, DisplayRules.showsField_iff, decide_eq_true_iff]
    exact {
      tagged := TagKeys.tagOf_eq_some_iff.1 htag
      static_iff := by
        simp only [Toggle.ite_ofOpen_eq_static_iff, List.any_eq_true, not_exists, not_and,
          DisplayRules.showsField_iff]
      opened := fun hopen => by
        rw [if_pos (Toggle.isOpen_eq_true_iff.2 hopen), hgroups, hshown]
      not_opened := fun hclosed => if_neg fun hopen => hclosed (Toggle.isOpen_eq_true_iff.1 hopen) }

/-- A value is depicted by its view. -/
theorem view_depicts (value : Value) (path : Path) (depth : Nat) :
    (view rules flags value path depth).Depicts rules value path := by
  cases value with
  | map fields =>
    rw [view]
    exact viewMap_depicts fun shown => entries_viewFields fields shown path (depth + 1)
  | list items =>
    rw [view]
    refine .inr ⟨items, rfl, ?_⟩
    rw [entries_viewElements]
    simp only [Nat.zero_add]
  | null | bool b | int n | float x | str s => rfl

end

/-- Rendering shows the view of the store's flags. -/
theorem render_fst (rules : DisplayRules) (value : Value) (path : Path) (depth : Nat)
    (store : ExpansionStore) :
    (render rules value path depth store).1 = view rules (store.flags rules) value path depth := by
  rw [render_eq]

/-- Only a scalar is shown as a text. -/
theorem viewBody_eq_literal_iff {rules : DisplayRules} {flags : Flags} {value : Value} {own : Path}
    {depth : Nat} {text : String} :
    viewBody rules flags value own depth = .literal text ↔
      value.isStructural = false ∧ text = Json.write value := by
  cases value with
  | map fields => simp [viewBody, Value.isStructural]
  | list items => cases items <;> simp [viewBody, Value.isStructural]
  | null | bool b | int n | float x | str s =>
    simp [viewBody, Value.isStructural, literal, eq_comm]

/-- Only a list without items is shown as such. -/
theorem viewBody_eq_empty_iff {rules : DisplayRules} {flags : Flags} {value : Value} {own : Path}
    {depth : Nat} : viewBody rules flags value own depth = .empty ↔ value = .list [] := by
  cases value with
  | map fields => simp [viewBody]
  | list items => cases items <;> simp [viewBody]
  | null | bool b | int n | float x | str s => simp [viewBody]

/-- A field's value is depicted by its group. -/
theorem viewBody_depicts (rules : DisplayRules) (store : ExpansionStore) (name : String)
    (value : Value) (own : Path) (depth : Nat) :
    (Group.mk own depth name (viewBody rules (store.flags rules) value own depth)).Depicts rules
      store value where
  literal_iff _ := viewBody_eq_literal_iff
  empty_iff := viewBody_eq_empty_iff
  list := by
    rintro items rfl hne
    -- whether the part below is open is asked of the store at the own key
    refine ⟨store.flags rules ⟨.group, own⟩, ?_⟩
    simp only [render_fst, Group.body, Group.path, Group.depth]
    rw [viewBody, if_neg (by simpa using hne), viewItems_eq_mapIdx]
    simp only [Nat.zero_add]
  map := by
    rintro fields rfl
    refine ⟨store.flags rules ⟨.group, own⟩, ?_⟩
    simp only [render_fst, Group.body, Group.path, Group.depth]
    rw [viewBody, view]

/-! ### The parts of a visual -/

/-- Something inside a visual. -/
inductive Part where
  | visual (visual : Visual)
  | group (group : Group)

mutual

/-- A visual and all visuals and groups inside it. -/
def Visual.parts : Visual → List Part
  | .empty => [.visual .empty]
  | .node path depth kind toggle active snippet groups =>
    .visual (.node path depth kind toggle active snippet groups) :: groupParts groups
  | .fragment groups => .visual (.fragment groups) :: groupParts groups

/-- A group and all visuals and groups inside it. -/
def Group.parts : Group → List Part
  | .mk path depth name body => .group (.mk path depth name body) :: body.parts

/-- All visuals and groups under a group's name. -/
def Body.parts : Body → List Part
  | .literal _ => []
  | .empty => []
  | .children _ _ items => itemParts items

/-- The parts of groups one after the other. -/
def groupParts : List Group → List Part
  | [] => []
  | group :: rest => group.parts ++ groupParts rest

/-- The parts of items one after the other. -/
def itemParts : List Visual → List Part
  | [] => []
  | visual :: rest => visual.parts ++ itemParts rest

end

/-- The part depicts a value of the tree: a group the one that its own path leads to. -/
def Part.Resolved (part : Part) (rules : DisplayRules) (tree : Value) (store : ExpansionStore) :
    Prop :=
  match part with
  | .visual inner => ∃ path value, tree.at? path = some value ∧ inner.Depicts rules value path
  | .group inner => ∃ value, tree.at? inner.path = some value ∧ inner.Depicts rules store value

/-! ### Every part is the view of a value -/

/-- The part is what a view shows of the value at `path`: the value itself, or the value as that of
a field. -/
def Part.Views (part : Part) (rules : DisplayRules) (flags : Flags) (path : Path) (value : Value) :
    Prop :=
  match part with
  | .visual inner => ∃ depth, inner = view rules flags value path depth
  | .group inner =>
    ∃ depth name, inner = .mk path depth name (viewBody rules flags value path depth)

/-- The part is what a view shows of one of these values, each with its path. -/
def Part.ViewsIn (part : Part) (rules : DisplayRules) (flags : Flags)
    (values : List (Path × Value)) : Prop :=
  ∃ entry ∈ values, part.Views rules flags entry.1 entry.2

section

variable {rules : DisplayRules} {flags : Flags}

/-- What is viewed among some values is viewed among more of them. -/
theorem Part.ViewsIn.mono {part : Part} {values more : List (Path × Value)}
    (h : part.ViewsIn rules flags values) (hsub : values ⊆ more) :
    part.ViewsIn rules flags more := by
  obtain ⟨entry, hentry, hviews⟩ := h
  exact ⟨entry, hsub hentry, hviews⟩

/-- Parts of two views stay parts among the values of both. -/
theorem viewsIn_append {first second : List Part} {values more : List (Path × Value)}
    (hfirst : ∀ part ∈ first, part.ViewsIn rules flags values)
    (hsecond : ∀ part ∈ second, part.ViewsIn rules flags more) :
    ∀ part ∈ first ++ second, part.ViewsIn rules flags (values ++ more) :=
  List.forall_mem_append.2
    ⟨fun part hpart => (hfirst part hpart).mono (List.subset_append_left _ _),
      fun part hpart => (hsecond part hpart).mono (List.subset_append_right _ _)⟩

/-- A view of a value is what it shows of the value itself. -/
theorem view_viewsIn (value : Value) (path : Path) (depth : Nat) :
    (Part.visual (view rules flags value path depth)).ViewsIn rules flags (value.located path) :=
  ⟨(path, value), List.mem_cons_self, depth, rfl⟩

/-- The parts of the group of a field's value are the group itself and those of its body. -/
theorem group_parts {value : Value} {own : Path} {depth : Nat}
    (hbody : ∀ part ∈ (viewBody rules flags value own depth).parts,
      part.ViewsIn rules flags (value.located own)) (name : String) :
    ∀ part ∈ (Group.mk own depth name (viewBody rules flags value own depth)).parts,
      part.ViewsIn rules flags (value.located own) := by
  rw [Group.parts]
  exact List.forall_mem_cons.2 ⟨⟨(own, value), List.mem_cons_self, depth, name, rfl⟩, hbody⟩

/-- The parts of the view of a map are the view itself and those of its groups. -/
theorem viewMap_parts {P : Part → Prop} {fields : List (String × Value)} {path : Path}
    {depth : Nat} {groups : (String → Value → Bool) → List Group}
    (hself : P (.visual (viewMap rules flags fields path depth groups)))
    (hgroups : ∀ shown, ∀ part ∈ groupParts (groups shown), P part) :
    ∀ part ∈ (viewMap rules flags fields path depth groups).parts, P part := by
  unfold viewMap at hself ⊢
  cases htag : rules.tagKeys.tagOf fields with
  | none =>
    rw [htag] at hself
    exact List.forall_mem_cons.2 ⟨hself, hgroups _⟩
  | some kind =>
    rw [htag] at hself
    -- Only an open node has groups, and they are those of the shown fields.
    have hbelow (toggle : Toggle) :
        ∀ part ∈ groupParts (if toggle.isOpen then groups rules.showsField else []), P part := by
      split
      · exact hgroups _
      · exact List.forall_mem_nil _
    exact List.forall_mem_cons.2 ⟨hself, hbelow _⟩

mutual

/-- **Every part of the view of a value is the view of a value in it.** -/
theorem view_parts (value : Value) (path : Path) (depth : Nat) :
    ∀ part ∈ (view rules flags value path depth).parts,
      part.ViewsIn rules flags (value.located path) := by
  -- the visual is the first of its own parts; the others lie further inside
  have hself : (Part.visual (view rules flags value path depth)).ViewsIn rules flags
    (value.located path) := view_viewsIn value path depth
  cases value with
  | map fields =>
    rw [view] at hself ⊢
    refine viewMap_parts hself fun shown part hpart => ?_
    exact (viewFields_parts fields shown path (depth + 1) part hpart).mono
      (List.subset_cons_self _ _)
  | list items =>
    rw [view] at hself ⊢
    refine List.forall_mem_cons.2 ⟨hself, fun part hpart => ?_⟩
    exact (viewElements_parts items path 0 (depth + 1) part hpart).mono
      (List.subset_cons_self _ _)
  | null | bool b | int n | float x | str s =>
    exact List.forall_mem_singleton.2 hself

/-- Each part of a body views a value at its place inside; one case for each constructor. -/
theorem viewBody_parts (value : Value) (own : Path) (depth : Nat) :
    ∀ part ∈ (viewBody rules flags value own depth).parts,
      part.ViewsIn rules flags (value.located own) := by
  cases value with
  | map fields =>
    -- The map is the group's only item and has the group's path.
    have hself : (Part.visual (view rules flags (.map fields) own (depth + 1))).ViewsIn rules flags
      ((Value.map fields).located own) := view_viewsIn (.map fields) own (depth + 1)
    rw [view] at hself
    rw [viewBody, Body.parts]
    split
    · rw [itemParts, itemParts, List.append_nil]
      refine viewMap_parts hself fun shown part hpart => ?_
      exact (viewFields_parts fields shown own (depth + 2) part hpart).mono
        (List.subset_cons_self _ _)
    · exact List.forall_mem_nil _
  | list items =>
    rw [viewBody]
    split
    · exact List.forall_mem_nil _
    · rw [Body.parts]
      split
      · intro part hpart
        exact (viewItems_parts items own 0 (depth + 1) part hpart).mono
          (List.subset_cons_self _ _)
      · exact List.forall_mem_nil _
  | null | bool b | int n | float x | str s =>
    exact List.forall_mem_nil _

/-- The case of the fields of an object. -/
theorem viewFields_parts (fields : List (String × Value)) (shown : String → Value → Bool)
    (path : Path) (depth : Nat) :
    ∀ part ∈ groupParts (viewFields rules flags fields shown path depth),
      part.ViewsIn rules flags (Value.insideFields fields path) := by
  match fields with
  | [] => exact List.forall_mem_nil _
  | (name, value) :: rest =>
    have hrest := viewFields_parts rest shown path depth
    rw [viewFields, Value.insideFields_cons]
    -- shown: the parts of its group, then those of the rest; hidden: those of the rest
    split
    · rw [groupParts]
      exact viewsIn_append (group_parts (viewBody_parts value (path.field name) depth) name) hrest
    · exact fun part hpart => (hrest part hpart).mono (List.subset_append_right _ _)

theorem viewElements_parts (items : List Value) (path : Path) (i depth : Nat) :
    ∀ part ∈ groupParts (viewElements rules flags items path i depth),
      part.ViewsIn rules flags (Value.insideItems items path i) := by
  match items with
  | [] => exact List.forall_mem_nil _
  | value :: rest =>
    rw [viewElements, groupParts, Value.insideItems_cons]
    exact viewsIn_append (group_parts (viewBody_parts value (path.index i) depth) (toString i))
      (viewElements_parts rest path (i + 1) depth)

theorem viewItems_parts (items : List Value) (own : Path) (i depth : Nat) :
    ∀ part ∈ itemParts (viewItems rules flags items own i depth),
      part.ViewsIn rules flags (Value.insideItems items own i) := by
  match items with
  | [] => exact List.forall_mem_nil _
  | value :: rest =>
    rw [viewItems, itemParts, Value.insideItems_cons]
    exact viewsIn_append (view_parts value (own.index i) depth)
      (viewItems_parts rest own (i + 1) depth)

end

end

/-! ### Every part resolves -/

section

variable {rules : DisplayRules} {tree : Value} {store : ExpansionStore}

/-- What a view shows of a value in the tree depicts it. -/
theorem Part.Views.resolved {part : Part} {path : Path} {value : Value}
    (h : part.Views rules (store.flags rules) path value) (hat : tree.at? path = some value) :
    part.Resolved rules tree store := by
  -- what views a value of the tree depicts it
  cases part with
  | visual inner =>
    obtain ⟨depth, rfl⟩ := h
    exact ⟨path, value, hat, view_depicts value path depth⟩
  | group inner =>
    obtain ⟨depth, name, rfl⟩ := h
    exact ⟨value, hat, viewBody_depicts rules store name value path depth⟩

/-- **Every part of the view of a value in the tree resolves.** -/
theorem view_resolved {value : Value} {path : Path} (depth : Nat) (wf : value.WellFormed)
    (hat : tree.at? path = some value) :
    ∀ part ∈ (view rules (store.flags rules) value path depth).parts,
      part.Resolved rules tree store := by
  intro part hpart
  obtain ⟨⟨own, found⟩, hmem, hviews⟩ := view_parts value path depth part hpart
  obtain ⟨rest, rfl, hfound⟩ := (Value.mem_located_iff wf).1 hmem
  refine hviews.resolved ?_
  rw [Value.at?_append, hat]
  exact hfound

end

/-- **What is rendered is what is in the tree.** A pass over a tree renders it at the root; a
rendered value is depicted; and inside what is shown, every visual depicts the value at some path of
the tree, which is its own path if it is a node, and every group the value at its own path. -/
theorem renderRoot_faithful (rules : DisplayRules) {tree : Value} (wf : tree.WellFormed)
    (store : ExpansionStore) :
    let visual := (renderRoot rules (some tree) store).1
    visual = (render rules tree [] 0 store).1 ∧
      (∀ value path depth, (render rules value path depth store).1.Depicts rules value path) ∧
      (∀ inner, .visual inner ∈ visual.parts →
        ∃ path value, tree.at? path = some value ∧ inner.Depicts rules value path) ∧
      ∀ group, .group group ∈ visual.parts →
        ∃ value, tree.at? group.path = some value ∧ group.Depicts rules store value := by
  intro visual
  have hvisual : visual = view rules (store.flags rules) tree [] 0 :=
    renderRoot_fst rules (some tree) store
  have hparts : ∀ part ∈ visual.parts, part.Resolved rules tree store := by
    rw [hvisual]
    exact view_resolved 0 wf rfl
  refine ⟨?_, fun value path depth => ?_, fun inner hinner => hparts _ hinner,
    fun group hgroup => hparts _ hgroup⟩
  · rw [hvisual, render_fst]
  · rw [render_fst]
    exact view_depicts value path depth

/-- A function with its name, a statement that cannot be opened, and a list in a list. -/
def namedTree : Value :=
  .map [("type", .str "Function"), ("name", .str "main"),
    ("body", .list [.map [("type", .str "Empty")], .list [.list [.int 1]]])]

/-- The rules that show names. -/
def namedRules : DisplayRules := { DisplayRules.standard with whitelist := ["name"] }

/-- The function was shown, and its body opened. -/
def namedStore : ExpansionStore :=
  ((renderRoot namedRules (some namedTree) .empty).2.toggle ⟨.group, [.field "body"]⟩).2

/-- The name is shown as the text of its value.  A statement in the open body is found in the tree
at its position, and the list after it is rendered as a fragment. -/
theorem renderRoot_faithful_opened :
    let visual := (renderRoot namedRules (some namedTree) namedStore).1
    let leaf : Path := [.field "body", .index 0]
    let list : Path := [.field "body", .index 1]
    let name : Group := .mk [.field "name"] 1 "name" (.literal "\"main\"")
    let body : Group := .mk [.field "body"] 1 "body" (.children true 2
      [.node leaf 2 "Empty" .static false none [],
        .fragment [.mk (list.index 0) 3 "0" (.children false 1 [])]])
    namedTree.WellFormed ∧ visual = .node [] 0 "Function" .opened false none [name, body] ∧
      (∃ path value, namedTree.at? path = some value ∧
        (Visual.node leaf 2 "Empty" .static false none []).Depicts namedRules value path) ∧
      (∃ value, namedTree.at? name.path = some value ∧
        name.Depicts namedRules namedStore value ∧
        value.isStructural = false ∧ Json.write value = "\"main\"") ∧
      ∃ value, namedTree.at? body.path = some value ∧
        body.Depicts namedRules namedStore value := by
  intro visual leaf list name body
  have wf : namedTree.WellFormed := by
    simp [namedTree, Value.WellFormed, Value.ItemsWellFormed, Value.FieldsWellFormed]
  have hvisual : visual = .node [] 0 "Function" .opened false none [name, body] := by
    unfold visual name body list leaf
    cbv
  obtain ⟨-, -, hvisuals, hgroups⟩ := renderRoot_faithful namedRules wf namedStore
  -- the group of a text, whose literal is then read off the depiction
  obtain ⟨value, hvalue, hname⟩ := hgroups name (by
    show _ ∈ visual.parts
    rw [hvisual]
    simp [Visual.parts, groupParts, Group.parts, name])
  obtain ⟨hscalar, hwrite⟩ := (hname.literal_iff "\"main\"").1 rfl
  refine ⟨wf, hvisual, hvisuals _ ?_, ⟨value, hvalue, hname, hscalar, hwrite.symm⟩,
    hgroups body ?_⟩
  all_goals
    show _ ∈ visual.parts
    rw [hvisual]
    simp [Visual.parts, groupParts, Group.parts, Body.parts, itemParts, body]

end TreeOutline
