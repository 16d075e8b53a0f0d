import TreeOutline.Proofs.Outline.Keys
import TreeOutline.Proofs.Tree.Located

namespace TreeOutline

/-!
# The outline with everything shown

When the rules show all fields and everything starts open, the rows go through the tree in
pre-order and agree with the spans of the marked kind.

* `Row.mark?`, `marksOf` — the rows that are looked at: those of nodes and of named fields, and
  all that are marked.  The groups of a list that stands in place of a node are passed over: their
  rows have positions for names.
* `valueMarks` — what a single value of the tree contributes: its field's group, and its node.
* `marks_labels`, `marks_renderRoot` — **the rows of the forest are those of its values in
  pre-order**, whatever maps and lists are nested in which way.
* `rows_complete` — each node and each named field has one row, nodes come in pre-order, and the
  marked rows have the spans of their kind.
-/

/-! ### Marks -/

/-- Whether a path ends in a field name. -/
def Path.endsInField (path : Path) : Bool :=
  match path.getLast? with
  | some (.field _) => true
  | _ => false

@[simp] theorem Path.endsInField_nil : Path.endsInField [] = false := rfl

@[simp] theorem Path.endsInField_field (path : Path) (name : String) :
    (path.field name).endsInField = true := by
  rw [endsInField, field, List.getLast?_concat]

@[simp] theorem Path.endsInField_index (path : Path) (i : Nat) :
    (path.index i).endsInField = false := by
  rw [endsInField, index, List.getLast?_concat]

/-- The key of a row and whether it is marked, unless it is the unmarked row of a position. -/
def Row.mark? (row : Row) : Option (LabelKey × Bool) :=
  if row.active || row.key.role == .node || row.key.path.endsInField then
    some (row.key, row.active)
  else none

/-- The marks of rows, from top to bottom. -/
def marksOf (rows : List Row) : List (LabelKey × Bool) := rows.filterMap Row.mark?

/-- The mark of the group at a path, if the path ends in a field name. -/
def groupMarks (path : Path) : List (LabelKey × Bool) :=
  if path.endsInField then [(⟨.group, path⟩, false)] else []

/-- The mark of the value at a path, if it is a node. -/
def nodeMarks (rules : DisplayRules) (path : Path) (value : Value) : List (LabelKey × Bool) :=
  ((value.kind? rules.tagKeys).map fun kind => (⟨.node, path⟩, rules.isActive kind)).toList

/-- The marks of a value: that of its group before that of its node. -/
def valueMarks (rules : DisplayRules) (entry : Path × Value) : List (LabelKey × Bool) :=
  groupMarks entry.1 ++ nodeMarks rules entry.1 entry.2

/-- The marks of rows are those of their parts, one after the other. -/
theorem marksOf_append (first second : List Row) :
    marksOf (first ++ second) = marksOf first ++ marksOf second := List.filterMap_append

/-- The marks of rows, row by row. -/
theorem marksOf_cons (row : Row) (rows : List Row) :
    marksOf (row :: rows) = row.mark?.toList ++ marksOf rows := by
  rw [marksOf, List.filterMap_cons]
  cases row.mark? with
  | none => rfl
  | some mark => rfl

/-- The mark of a node's row. -/
theorem mark?_ofNode (rules : DisplayRules) (fields : List (String × Value)) (path : Path)
    (kind : String) (flags : Flags) (level : Nat) :
    ((Caption.ofNode rules fields path kind).row flags level).mark? =
      some (⟨.node, path⟩, rules.isActive kind) := by
  rw [Row.mark?, if_pos]
  · rfl
  · simp [Caption.row, Caption.ofNode]

/-- The mark of a group's row. -/
theorem mark?_ofGroup (own : Path) (name : String) (value : Value) (flags : Flags) (level : Nat) :
    ((Caption.ofGroup own name value).row flags level).mark?.toList = groupMarks own := by
  have hactive : (Caption.ofGroup own name value).active = false := by cases value <;> rfl
  rw [Row.mark?, groupMarks, Caption.row, Caption.key_ofGroup, hactive]
  cases own.endsInField with
  | true => rfl
  | false => rfl

/-! ### Open labels -/

/-- Both labels of each of the values are open. -/
def AllOpen (flags : Flags) (entries : List (Path × Value)) : Prop :=
  ∀ entry ∈ entries, ∀ role, flags ⟨role, entry.1⟩ = true

/-- An open label shows everything below it, and so does one with nothing below it. -/
theorem Label.rows_of_open {flags : Flags} {caption : Caption} {below : List Label}
    (hflag : flags caption.key = true) (hbelow : caption.opens = false → below = []) (level : Nat) :
    (Label.mk caption below).rows flags level =
      caption.row flags level :: labelRows flags below (level + 1) := by
  rw [Label.rows, Caption.toggle, hflag]
  cases hopens : caption.opens with
  | true => rfl
  | false =>
    rw [hbelow hopens]
    rfl

/-- With all fields asked for, each one is shown. -/
theorem showsField_of_all {rules : DisplayRules} (hall : rules.variant = .all) (name : String)
    (value : Value) : rules.showsField name value = true := by
  rw [DisplayRules.showsField, hall]

/-- Where all fields are shown, a tagged node shows at least one, namely the tag. -/
theorem any_showsField_of_tagOf {rules : DisplayRules} (hall : rules.variant = .all)
    {fields : List (String × Value)} {kind : String}
    (htag : rules.tagKeys.tagOf fields = some kind) :
    (fields.any fun (name, value) => rules.showsField name value) = true := by
  cases fields with
  | nil =>
    have hnone : rules.tagKeys.tagOf [] = none := List.findSome?_eq_none_iff.2 fun _ _ => rfl
    rw [hnone] at htag
    exact nomatch htag
  | cons field rest =>
    -- a tag is one of the fields, and nothing is hidden, so any field will do
    have hfirst : rules.showsField field.1 field.2 = true := showsField_of_all hall _ _
    exact List.any_eq_true.2 ⟨field, List.mem_cons_self, hfirst⟩

/-! ### The rows of a value are its marks in pre-order -/

section

variable {rules : DisplayRules} {flags : Flags}

/-- A map shows its node, if it is one, and then the marks of its fields. -/
theorem marks_mapLabels (hall : rules.variant = .all) {fields : List (String × Value)}
    {path : Path} {groups : (String → Value → Bool) → List Label} {entries : List (Path × Value)}
    (hflag : flags ⟨.node, path⟩ = true)
    (hgroups : ∀ shown level, (∀ name value, shown name value = true) →
      marksOf (labelRows flags (groups shown) level) = entries.flatMap (valueMarks rules))
    (level : Nat) :
    marksOf (labelRows flags (mapLabels rules fields path groups) level) =
      nodeMarks rules path (.map fields) ++ entries.flatMap (valueMarks rules) := by
  rw [mapLabels, nodeMarks,
    show (Value.map fields).kind? rules.tagKeys = rules.tagKeys.tagOf fields from rfl]
  cases htag : rules.tagKeys.tagOf fields with
  | none => exact hgroups _ level fun _ _ => rfl
  | some kind =>
    -- the node opens since a field is shown, so its groups follow it
    have hopens : (Caption.ofNode rules fields path kind).opens = true :=
      any_showsField_of_tagOf hall htag
    rw [labelRows, labelRows, List.append_nil, Label.rows_of_open hflag (by simp [hopens]),
      marksOf_cons, mark?_ofNode, hgroups _ _ (showsField_of_all hall)]
    rfl

/-- A group shows its mark, if its path ends in a field name, and then the marks below it. -/
theorem marks_group {value : Value} {own : Path} (name : String)
    (hflag : flags ⟨.group, own⟩ = true)
    (hbody : ∀ level, marksOf (labelRows flags (bodyLabels rules value own) level) =
      nodeMarks rules own value ++ (value.inside own).flatMap (valueMarks rules))
    (level : Nat) :
    marksOf ((Label.mk (.ofGroup own name value) (bodyLabels rules value own)).rows flags level) =
      (value.located own).flatMap (valueMarks rules) := by
  -- what cannot be opened has nothing below it that could be missed
  have hstatic (hopens : (Caption.ofGroup own name value).opens = false) :
      bodyLabels rules value own = [] := by
    cases value with
    | map fields => exact absurd hopens (by simp [Caption.ofGroup])
    | list items =>
      cases items with
      | nil => rfl
      | cons item rest => exact absurd hopens (by simp [Caption.ofGroup])
    | null | bool b | int n | float x | str s => rfl
  rw [Label.rows_of_open (by rwa [Caption.key_ofGroup]) hstatic, marksOf_cons, mark?_ofGroup, hbody,
    Value.located, List.flatMap_cons, valueMarks, List.append_assoc]

mutual

/-- **The rows of a value**, all of them open: its node and then the values inside it. -/
theorem marks_labels (hall : rules.variant = .all) (value : Value) (path : Path)
    (hopen : AllOpen flags (value.located path)) (level : Nat) :
    marksOf (labelRows flags (labels rules value path) level) =
      nodeMarks rules path value ++ (value.inside path).flatMap (valueMarks rules) := by
  rw [AllOpen, Value.located, List.forall_mem_cons] at hopen
  -- the entries inside follow the recursion of the rendering, constructor by constructor
  cases value with
  | map fields =>
    rw [labels]
    exact marks_mapLabels hall (hopen.1 .node)
      (fun shown level hshown => marks_fieldLabels hall fields hshown path hopen.2 level) level
  | list items =>
    rw [labels, Value.inside]
    exact marks_elementLabels hall items path 0 hopen.2 level
  | null | bool b | int n | float x | str s => rfl

/-- What is below a group shows the same as its value elsewhere. -/
theorem marks_bodyLabels (hall : rules.variant = .all) (value : Value) (own : Path)
    (hopen : AllOpen flags (value.located own)) (level : Nat) :
    marksOf (labelRows flags (bodyLabels rules value own) level) =
      nodeMarks rules own value ++ (value.inside own).flatMap (valueMarks rules) := by
  rw [AllOpen, Value.located, List.forall_mem_cons] at hopen
  cases value with
  | map fields =>
    rw [bodyLabels]
    exact marks_mapLabels hall (hopen.1 .node)
      (fun shown level hshown => marks_fieldLabels hall fields hshown own hopen.2 level) level
  | list items =>
    rw [bodyLabels, Value.inside]
    exact marks_itemLabels hall items own 0 hopen.2 level
  | null | bool b | int n | float x | str s => rfl

/-- The case of the fields of a node: each of them and everything inside leaves its mark. -/
theorem marks_fieldLabels (hall : rules.variant = .all) (fields : List (String × Value))
    {shown : String → Value → Bool} (hshown : ∀ name value, shown name value = true) (path : Path)
    (hopen : AllOpen flags (Value.insideFields fields path)) (level : Nat) :
    marksOf (labelRows flags (fieldLabels rules fields shown path) level) =
      (Value.insideFields fields path).flatMap (valueMarks rules) := by
  match fields with
  | [] => rfl
  | (name, value) :: rest =>
    rw [AllOpen, Value.insideFields_cons, List.forall_mem_append] at hopen
    have hgroup := hopen.1 (path.field name, value) List.mem_cons_self .group
    rw [fieldLabels, if_pos (hshown name value), labelRows, marksOf_append,
      marks_group name hgroup (marks_bodyLabels hall value (path.field name) hopen.1),
      marks_fieldLabels hall rest hshown path hopen.2, Value.insideFields_cons, List.flatMap_append]

theorem marks_elementLabels (hall : rules.variant = .all) (items : List Value) (path : Path)
    (i : Nat) (hopen : AllOpen flags (Value.insideItems items path i)) (level : Nat) :
    marksOf (labelRows flags (elementLabels rules items path i) level) =
      (Value.insideItems items path i).flatMap (valueMarks rules) := by
  match items with
  | [] => rfl
  | value :: rest =>
    rw [AllOpen, Value.insideItems_cons, List.forall_mem_append] at hopen
    have hgroup := hopen.1 (path.index i, value) List.mem_cons_self .group
    rw [elementLabels, labelRows, marksOf_append,
      marks_group _ hgroup (marks_bodyLabels hall value (path.index i) hopen.1),
      marks_elementLabels hall rest path (i + 1) hopen.2, Value.insideItems_cons,
      List.flatMap_append]

theorem marks_itemLabels (hall : rules.variant = .all) (items : List Value) (own : Path)
    (i : Nat) (hopen : AllOpen flags (Value.insideItems items own i)) (level : Nat) :
    marksOf (labelRows flags (itemLabels rules items own i) level) =
      (Value.insideItems items own i).flatMap (valueMarks rules) := by
  match items with
  | [] => rfl
  | value :: rest =>
    rw [AllOpen, Value.insideItems_cons, List.forall_mem_append] at hopen
    rw [itemLabels, labelRows_append, marksOf_append, marks_labels hall value (own.index i) hopen.1,
      marks_itemLabels hall rest own (i + 1) hopen.2, Value.insideItems_cons, List.flatMap_append,
      Value.located, List.flatMap_cons, valueMarks]
    -- A position has no group mark, so the item's node comes first here as well.
    rw [groupMarks, Path.endsInField_index]
    rfl

end

/-- The rows of a whole tree. -/
theorem marks_renderRoot (hall : rules.variant = .all) {tree : Value} (wf : tree.WellFormed)
    (hdepth : ∀ path, (tree.at? path).isSome = true → (path.length : Int) ≤ rules.openDepth) :
    marksOf (renderRoot rules (some tree) .empty).1.rows =
      (tree.located []).flatMap (valueMarks rules) := by
  have hopen : AllOpen (ExpansionStore.empty.flags rules) (tree.located []) := by
    rintro ⟨path, found⟩ hmem role
    have hat : tree.at? path = some found := (Value.mem_located_nil_iff wf).1 hmem
    show (ExpansionStore.empty.peek ⟨role, path⟩).getD (rules.startsOpen path) = true
    rw [ExpansionStore.peek_empty, Option.getD_none, DisplayRules.startsOpen, decide_eq_true_eq]
    exact hdepth path (by rw [hat]; rfl)
  rw [rows_renderRoot, rootLabels, marks_labels hall tree [] hopen, Value.located,
    List.flatMap_cons, valueMarks]
  -- The root stands in no field, so it has no group mark.
  rw [groupMarks, Path.endsInField_nil]
  rfl

end

/-! ### From marks back to rows -/

/-- The rows of nodes and the marked rows are looked at. -/
theorem Row.mark?_of_looked {row : Row} (hlooked : row.active = true ∨ row.key.role = .node) :
    row.mark? = some (row.key, row.active) := by
  rw [Row.mark?, if_pos]
  rcases hlooked with hactive | hrole
  · rw [hactive, Bool.true_or, Bool.true_or]
  · rw [hrole]
    simp

/-- A mark is the key of its row and whether the row is active. -/
theorem Row.eq_of_mark? {row : Row} {mark : LabelKey × Bool} (hmark : row.mark? = some mark) :
    (row.key, row.active) = mark := by
  rw [Row.mark?, Option.ite_none_right_eq_some, Option.some.injEq] at hmark
  exact hmark.2

/-- Each mark comes from a row. -/
theorem exists_row_of_mem_marksOf {rows : List Row} {mark : LabelKey × Bool}
    (hmark : mark ∈ marksOf rows) : ∃ row ∈ rows, (row.key, row.active) = mark := by
  obtain ⟨row, hrow, hsome⟩ := List.mem_filterMap.1 hmark
  exact ⟨row, hrow, Row.eq_of_mark? hsome⟩

/-- What is read off the rows of nodes and the marked rows is read off the marks. -/
theorem filterMap_marksOf {α : Type} {f : LabelKey × Bool → Option α} {rows : List Row}
    (hf : ∀ row ∈ rows, ¬(row.active = true ∨ row.key.role = .node) →
      f (row.key, row.active) = none) :
    rows.filterMap (fun row => f (row.key, row.active)) = (marksOf rows).filterMap f := by
  rw [marksOf, List.filterMap_filterMap]
  refine List.filterMap_congr fun row hrow => ?_
  by_cases hlooked : row.active = true ∨ row.key.role = .node
  · rw [Row.mark?_of_looked hlooked, Option.bind_some]
  · rw [hf row hrow hlooked]
    -- a row that is not looked at may have a mark, of a group; it gives nothing either
    cases hmark : row.mark? with
    | none => rfl
    | some mark => rw [Option.bind_some, ← Row.eq_of_mark? hmark, hf row hrow hlooked]

section

variable {rules : DisplayRules} {rows : List Row} {entries : List (Path × Value)}

/-- What marks a located value leaves: that of its group if it is a field, and that of its node if
it has a kind. -/
theorem mem_valueMarks_iff {entry : Path × Value} {mark : LabelKey × Bool} :
    mark ∈ valueMarks rules entry ↔
      (entry.1.endsInField = true ∧ mark = (⟨.group, entry.1⟩, false)) ∨
        ∃ kind, entry.2.kind? rules.tagKeys = some kind ∧
          (⟨.node, entry.1⟩, rules.isActive kind) = mark := by
  rw [valueMarks, List.mem_append, groupMarks, List.mem_ite_nil_right, List.mem_singleton,
    nodeMarks, Option.mem_toList, Option.map_eq_some_iff]

/-- What is read off the marks of values is read off the values. -/
theorem filterMap_valueMarks {α : Type} {f : LabelKey × Bool → Option α}
    {g : Path × Value → Option α} (hgroup : ∀ path, f (⟨.group, path⟩, false) = none)
    (hnode : ∀ entry ∈ entries, (entry.2.kind? rules.tagKeys).bind
      (fun kind => f (⟨.node, entry.1⟩, rules.isActive kind)) = g entry) :
    (entries.flatMap (valueMarks rules)).filterMap f = entries.filterMap g := by
  rw [List.filterMap_flatMap, List.filterMap_eq_flatMap_toList]
  refine List.flatMap_congr fun entry hentry => ?_
  -- the mark of a group is not looked for
  have hnone : (groupMarks entry.1).filterMap f = [] := by
    rw [groupMarks]
    cases entry.1.endsInField with
    | false => rfl
    | true => rw [if_pos rfl, List.filterMap_cons, hgroup, List.filterMap_nil]
  rw [valueMarks, List.filterMap_append, hnone, List.nil_append, ← hnode entry hentry, nodeMarks]
  cases entry.2.kind? rules.tagKeys with
  | none => rfl
  | some kind =>
    rw [Option.map_some, Option.toList_some, List.filterMap_cons, Option.bind_some]
    cases f (⟨.node, entry.1⟩, rules.isActive kind) with
    | none => rfl
    | some a => rfl

variable (hmarks : marksOf rows = entries.flatMap (valueMarks rules))
include hmarks

/-- The rows of nodes come in the order of the values. -/
theorem nodePaths_of_marks :
    (rows.filter fun row => row.key.role == .node).map (fun row => row.key.path) =
      (entries.filter fun entry => (entry.2.kind? rules.tagKeys).isSome).map Prod.fst := by
  rw [← List.filterMap_eq_map, ← List.filterMap_eq_map, List.filterMap_filter,
    List.filterMap_filter]
  -- the path is a function of the mark, so that only the list of marks counts
  let f (mark : LabelKey × Bool) : Option Path :=
    if mark.1.role == .node then some mark.1.path else none
  refine (filterMap_marksOf (f := f) fun row _ hnot => ?_).trans ?_
  · exact if_neg fun hrole => hnot (.inr (beq_iff_eq.1 hrole))
  · rw [hmarks]
    refine filterMap_valueMarks (fun path => rfl) fun entry _ => ?_
    cases entry.2.kind? rules.tagKeys with
    | none => rfl
    | some kind => rfl

/-- Each mark of a value has a row. -/
theorem key_mem_of_mark {entry : Path × Value} (hentry : entry ∈ entries)
    {mark : LabelKey × Bool} (hmark : mark ∈ valueMarks rules entry) :
    mark.1 ∈ rows.map Row.key := by
  have hmem : mark ∈ marksOf rows := by
    rw [hmarks]
    exact List.mem_flatMap.2 ⟨entry, hentry, hmark⟩
  obtain ⟨row, hrow, rfl⟩ := exists_row_of_mem_marksOf hmem
  exact List.mem_map_of_mem hrow

/-- The row of a node, and any marked row, is that of a node among the values. -/
theorem exists_entry_of_looked {row : Row} (hrow : row ∈ rows)
    (hlooked : row.active = true ∨ row.key.role = .node) :
    ∃ entry ∈ entries, ∃ kind, entry.2.kind? rules.tagKeys = some kind ∧
      row.key = ⟨.node, entry.1⟩ ∧ row.active = rules.isActive kind := by
  have hmem : (row.key, row.active) ∈ marksOf rows :=
    List.mem_filterMap.2 ⟨row, hrow, Row.mark?_of_looked hlooked⟩
  rw [hmarks] at hmem
  obtain ⟨entry, hentry, hmark⟩ := List.mem_flatMap.1 hmem
  rcases mem_valueMarks_iff.1 hmark with ⟨-, heq⟩ | ⟨kind, hkind, heq⟩
  · -- A group is neither marked nor a node.
    rw [Prod.mk.injEq] at heq
    rw [heq.1, heq.2] at hlooked
    exact absurd hlooked (by simp)
  · rw [Prod.mk.injEq] at heq
    exact ⟨entry, hentry, kind, hkind, heq.1.symm, heq.2.symm⟩

end

section

variable {rules : DisplayRules} {rows : List Row} {tree : Value} {kind : String}
  (wf : tree.WellFormed) (hactive : rules.activeKind = some kind)
  (hmarks : marksOf rows = (tree.located []).flatMap (valueMarks rules))
include wf hactive hmarks

/-- The marked rows are those of the nodes of the marked kind. -/
theorem active_iff_of_marks {row : Row} (hrow : row ∈ rows) :
    row.active = true ↔ row.key.role = .node ∧
      (tree.at? row.key.path).bind (·.kind? rules.tagKeys) = some kind := by
  constructor
  · intro hmarked
    -- a marked row comes from an entry of the tree, whose kind decides
    obtain ⟨⟨path, found⟩, hentry, other, hother, hkey, heq⟩ :=
      exists_entry_of_looked hmarks hrow (.inl hmarked)
    rw [hmarked, DisplayRules.isActive, hactive, eq_comm, beq_iff_eq, Option.some.injEq] at heq
    rw [hkey, (Value.mem_located_nil_iff wf).1 hentry, heq]
    exact ⟨rfl, hother⟩
  · rintro ⟨hrole, hkind⟩
    obtain ⟨⟨path, found⟩, hentry, other, hother, hkey, heq⟩ :=
      exists_entry_of_looked hmarks hrow (.inr hrole)
    rw [hkey, (Value.mem_located_nil_iff wf).1 hentry] at hkind
    rw [heq, DisplayRules.isActive, hactive, ← hkind, beq_iff_eq]
    exact hother

/-- The marked rows have the spans of the marked kind, in the same order. -/
theorem activeSpans_of_marks :
    (rows.filter Row.active).filterMap
        (fun row => (tree.at? row.key.path).bind Value.span?) =
      tree.spansOf rules.tagKeys kind := by
  rw [List.filterMap_filter, Value.spansOf_eq_located rules.tagKeys kind tree []]
  -- the span is a function of the mark, so that only the list of marks counts
  let f (mark : LabelKey × Bool) : Option Span :=
    if mark.2 then (tree.at? mark.1.path).bind Value.span? else none
  refine (filterMap_marksOf (f := f) fun row _ hnot => ?_).trans ?_
  · exact if_neg fun hmarked => hnot (.inl hmarked)
  · rw [hmarks]
    refine filterMap_valueMarks (fun path => rfl) fun ⟨path, found⟩ hentry => ?_
    have hat : tree.at? path = some found := (Value.mem_located_nil_iff wf).1 hentry
    show _ = if found.kind? rules.tagKeys = some kind then found.span? else none
    cases hkind : found.kind? rules.tagKeys with
    | none => rfl
    | some other =>
      show (if rules.isActive other then (tree.at? path).bind Value.span? else none) = _
      rw [hat, Option.bind_some, DisplayRules.isActive, hactive]
      by_cases heq : other = kind
      · rw [heq, beq_self_eq_true, if_pos rfl, if_pos rfl]
      · rw [if_neg, if_neg]
        · exact fun hsome => heq (Option.some.inj hsome)
        · exact fun hsome => heq (Option.some.inj (beq_iff_eq.1 hsome)).symm

end

/-! ### The complete outline -/

/-- **Nothing is lost or shown twice.** Let all fields be shown, one kind be marked, and let
everything start open, from a store without flags.  Then each path to a node has exactly one row of
a node, these rows come in the pre-order of the tree, and each path to a field has exactly one row
of a group.  The marked rows are those of the nodes of the kind, and the spans of their values, in
the order of the rows, are the spans of the kind in the tree. -/
theorem rows_complete (rules : DisplayRules) {tree : Value} {kind : String}
    (wf : tree.WellFormed) (hall : rules.variant = .all) (hactive : rules.activeKind = some kind)
    (hdepth : ∀ path, (tree.at? path).isSome = true → (path.length : Int) ≤ rules.openDepth) :
    let rows := (renderRoot rules (some tree) .empty).1.rows
    (∀ path found, tree.at? path = some found → (found.kind? rules.tagKeys).isSome = true →
      (rows.map Row.key).count ⟨.node, path⟩ = 1) ∧
      (rows.filter fun row => row.key.role == .node).map (fun row => row.key.path) =
        ((tree.located []).filter fun entry => (entry.2.kind? rules.tagKeys).isSome).map Prod.fst ∧
      (∀ (path : Path) name, (tree.at? (path.field name)).isSome = true →
        (rows.map Row.key).count ⟨.group, path.field name⟩ = 1) ∧
      (∀ row ∈ rows, row.active = true ↔ row.key.role = .node ∧
        (tree.at? row.key.path).bind (·.kind? rules.tagKeys) = some kind) ∧
      (rows.filter Row.active).filterMap
          (fun row => (tree.at? row.key.path).bind Value.span?) =
        tree.spansOf rules.tagKeys kind := by
  intro rows
  have hmarks : marksOf rows = (tree.located []).flatMap (valueMarks rules) :=
    marks_renderRoot hall wf hdepth
  have hnodup : (rows.map Row.key).Nodup :=
    rowKeys_nodup rules (fun value hvalue => by rwa [← Option.some.inj hvalue]) .empty
  -- at least one row by the list of marks, at most one since keys are told apart
  refine ⟨fun path found hat hnode => ?_, nodePaths_of_marks hmarks, fun path name hat => ?_,
    fun row => active_iff_of_marks wf hactive hmarks, activeSpans_of_marks wf hactive hmarks⟩
  · obtain ⟨other, hother⟩ := Option.isSome_iff_exists.1 hnode
    have hentry : (path, found) ∈ tree.located [] := (Value.mem_located_nil_iff wf).2 hat
    exact List.count_eq_one_of_mem hnodup <|
      key_mem_of_mark hmarks hentry (mem_valueMarks_iff.2 (.inr ⟨other, hother, rfl⟩))
  · obtain ⟨found, hfound⟩ := Option.isSome_iff_exists.1 hat
    have hentry : (path.field name, found) ∈ tree.located [] :=
      (Value.mem_located_nil_iff wf).2 hfound
    exact List.count_eq_one_of_mem hnodup <|
      key_mem_of_mark hmarks hentry
        (mem_valueMarks_iff.2 (.inl ⟨Path.endsInField_field path name, rfl⟩))

/-! ### A tree of all shapes -/

/-- A call of an identifier, with one identifier in a list in a list, and one in a plain map in a
field named like a position, whose offsets are out of order. -/
def nestedTree : Value :=
  .map [("type", .str "Call"),
    ("callee", .map [("kind", .str "Identifier"), ("start", .int 0), ("end", .int 3)]),
    ("arguments", .list [
      .list [.map [("kind", .str "Identifier"), ("start", .int 5), ("end", .int 6)]],
      .map [("0", .map [("kind", .str "Identifier"), ("start", .int 9), ("end", .int 8)])],
      .int 1])]

/-- No object of the example has a name twice. -/
theorem nestedTree_wellFormed : nestedTree.WellFormed := by
  simp [nestedTree, Value.WellFormed, Value.ItemsWellFormed, Value.FieldsWellFormed]

/-- Nothing in the example lies deeper than four steps. -/
theorem length_of_nestedTree_at {path : Path} (hat : (nestedTree.at? path).isSome = true) :
    path.length ≤ 4 := by
  obtain ⟨found, hfound⟩ := Option.isSome_iff_exists.1 hat
  have hlength : ∀ entry ∈ nestedTree.located [], entry.1.length ≤ 4 := by decide
  exact hlength (path, found) ((Value.mem_located_nil_iff nestedTree_wellFormed).2 hfound)

/-- All fields, everything open, identifiers marked. -/
def nestedRules : DisplayRules :=
  { DisplayRules.standard with
    variant := .all, openDepth := 4, activeKind := some "Identifier" }

/-- The four nodes of the tree come in pre-order; three are marked, and two of them have a span. -/
theorem rows_complete_nested :
    let rows := (renderRoot nestedRules (some nestedTree) .empty).1.rows
    nestedTree.WellFormed ∧ nestedRules.variant = .all ∧
      nestedRules.activeKind = some "Identifier" ∧
      (∀ path, (nestedTree.at? path).isSome = true → (path.length : Int) ≤ nestedRules.openDepth) ∧
      (rows.map Row.key).count ⟨.node, [.field "arguments", .index 0, .index 0]⟩ = 1 ∧
      (rows.filter fun row => row.key.role == .node).map (fun row => row.key.path) =
        [[], [.field "callee"], [.field "arguments", .index 0, .index 0],
          [.field "arguments", .index 1, .field "0"]] ∧
      (rows.map Row.key).count ⟨.group, [.field "arguments", .index 1, .field "0"]⟩ = 1 ∧
      (∀ row ∈ rows, row.active = true ↔ row.key.role = .node ∧
        (nestedTree.at? row.key.path).bind (·.kind? .standard) = some "Identifier") ∧
      (rows.filter Row.active).filterMap
          (fun row => (nestedTree.at? row.key.path).bind Value.span?) = [⟨0, 3⟩, ⟨5, 6⟩] := by
  intro rows
  have hdepth (path : Path) (hat : (nestedTree.at? path).isSome = true) :
      (path.length : Int) ≤ nestedRules.openDepth :=
    Int.ofNat_le.2 (length_of_nestedTree_at hat)
  obtain ⟨hnodes, horder, hgroups, hmarked, hspans⟩ :=
    rows_complete nestedRules nestedTree_wellFormed rfl rfl hdepth
  -- what the theorem leaves to compute needs the tree alone, not its rows
  refine ⟨nestedTree_wellFormed, rfl, rfl, hdepth, hnodes _ _ rfl (by decide), ?_,
    hgroups [.field "arguments", .index 1] "0" (by decide), hmarked, ?_⟩
  · rw [horder]
    decide
  · rw [hspans]
    decide

end TreeOutline
