import TreeOutline.Proofs.Outline.Label
import TreeOutline.Proofs.Text.Lines
import TreeOutline.Proofs.Tree.Located
import TreeOutline.Proofs.Value.OneLine

namespace TreeOutline

/-!
# The lines of an outline

The text of an outline has an end behind every row.  What a field shows of its value is one line,
but kinds and field names stand in the text as they are, so a row is one line exactly when its label
is.

* `Caption.Of` — what is said of a value at a path: the kind of a node, or the name of the field
  that the path ends in and what the field shows.
* `exists_entry_of_mem_rows` — **every row says something of a value in the tree**, by one induction
  over the forest of labels.
* `Caption.Of.newline_not_mem_detail`, `Caption.Of.newline_not_mem_label` — what is shown of a value
  has no line end; a label has one only from a kind or a field name of the tree.
* `Row.count_newline_text`, `count_newline_lines` — so the line ends of an outline are those behind
  the rows and those in labels.
* `text_lines` — **how an outline falls into lines.**
-/

/-! ### What rows say -/

/-- A caption for a value at a path: that of a node, or that of the step the path ends with. -/
inductive Caption.Of (rules : DisplayRules) : Path × Value → Caption → Prop where
  | node {path : Path} {fields : List (String × Value)} {kind : String}
      (htag : rules.tagKeys.tagOf fields = some kind) :
      Of rules (path, .map fields) (.ofNode rules fields path kind)
  | group (path : Path) (step : Step) (value : Value) :
      Of rules (path ++ [step], value) (.ofGroup (path ++ [step]) step.text value)

/-- A row with a caption for one of these values. -/
def Row.SaysOf (row : Row) (rules : DisplayRules) (flags : Flags) (values : List (Path × Value)) :
    Prop :=
  ∃ entry ∈ values, ∃ caption level, Caption.Of rules entry caption ∧ row = caption.row flags level

variable {rules : DisplayRules} {flags : Flags} {row : Row} {level : Nat}

/-- What a row says of some values it says of more of them. -/
theorem Row.SaysOf.mono {values more : List (Path × Value)} (h : row.SaysOf rules flags values)
    (hmore : values ⊆ more) : row.SaysOf rules flags more := by
  obtain ⟨entry, hentry, hsays⟩ := h
  exact ⟨entry, hmore hentry, hsays⟩

/-- The rows of a map say something of it, provided those of its fields do. -/
theorem saysOf_mapLabels {fields : List (String × Value)} {path : Path}
    {below : (String → Value → Bool) → List Label}
    (h : ∀ shown level row, row ∈ labelRows flags (below shown) level →
      row.SaysOf rules flags (Value.insideFields fields path))
    (hrow : row ∈ labelRows flags (mapLabels rules fields path below) level) :
    row.SaysOf rules flags ((Value.map fields).located path) := by
  have hinside : Value.insideFields fields path ⊆ (Value.map fields).located path :=
    List.subset_cons_self _ _
  unfold mapLabels at hrow
  cases htag : rules.tagKeys.tagOf fields with
  | none =>
    rw [htag] at hrow
    exact (h _ _ _ hrow).mono hinside
  -- the first row is the node's own and says its kind; what is below is inside
  | some kind =>
    rw [htag] at hrow
    dsimp only at hrow
    rw [labelRows, labelRows, List.append_nil, Label.mem_rows] at hrow
    rcases hrow with rfl | ⟨-, hbelow⟩
    · exact ⟨(path, .map fields), List.mem_cons_self, _, level, .node htag, rfl⟩
    · exact (h _ _ _ hbelow).mono hinside

/-- The rows of a field say something of its value, provided those below it do. -/
theorem saysOf_group {path : Path} (step : Step) {value : Value}
    (h : ∀ level row, row ∈ labelRows flags (bodyLabels rules value (path ++ [step])) level →
      row.SaysOf rules flags (value.located (path ++ [step])))
    (hrow : row ∈ (Label.mk (.ofGroup (path ++ [step]) step.text value)
      (bodyLabels rules value (path ++ [step]))).rows flags level) :
    row.SaysOf rules flags (value.located (path ++ [step])) := by
  rcases Label.mem_rows.1 hrow with rfl | ⟨-, hbelow⟩
  · exact ⟨(path ++ [step], value), List.mem_cons_self, _, level, .group path step value, rfl⟩
  · exact h _ _ hbelow

mutual

/-- The rows of a value say something of what is in it. -/
theorem saysOf_labels (value : Value) (path : Path) (level : Nat) (row : Row)
    (hrow : row ∈ labelRows flags (labels rules value path) level) :
    row.SaysOf rules flags (value.located path) := by
  -- what a row says is about an entry at or inside the value it was rendered from
  match value with
  | .map fields =>
    rw [labels] at hrow
    exact saysOf_mapLabels (fun shown => saysOf_fieldLabels fields shown path) hrow
  | .list items =>
    rw [labels] at hrow
    exact (saysOf_elementLabels items path 0 level row hrow).mono (List.subset_cons_self _ _)
  | .null | .bool _ | .int _ | .float _ | .str _ => exact absurd hrow List.not_mem_nil

/-- Each row of a body says something of a value inside; one case for each constructor. -/
theorem saysOf_bodyLabels (value : Value) (own : Path) (level : Nat) (row : Row)
    (hrow : row ∈ labelRows flags (bodyLabels rules value own) level) :
    row.SaysOf rules flags (value.located own) := by
  match value with
  | .map fields =>
    rw [bodyLabels] at hrow
    exact saysOf_mapLabels (fun shown => saysOf_fieldLabels fields shown own) hrow
  | .list items =>
    rw [bodyLabels] at hrow
    exact (saysOf_itemLabels items own 0 level row hrow).mono (List.subset_cons_self _ _)
  | .null | .bool _ | .int _ | .float _ | .str _ => exact absurd hrow List.not_mem_nil

/-- The case of the fields of an object. -/
theorem saysOf_fieldLabels (fields : List (String × Value)) (shown : String → Value → Bool)
    (path : Path) (level : Nat) (row : Row)
    (hrow : row ∈ labelRows flags (fieldLabels rules fields shown path) level) :
    row.SaysOf rules flags (Value.insideFields fields path) := by
  match fields with
  | [] => exact absurd hrow List.not_mem_nil
  | (name, value) :: rest =>
    rw [Value.insideFields_cons]
    rw [fieldLabels] at hrow
    -- Whether or not this field is shown, the rows of the others are those of the rest.
    have hrest (hrow : row ∈ labelRows flags (fieldLabels rules rest shown path) level) :=
      (saysOf_fieldLabels rest shown path level row hrow).mono
        (List.subset_append_right (value.located (path.field name)) _)
    by_cases hshown : shown name value = true
    · rw [if_pos hshown, labelRows, List.mem_append] at hrow
      rcases hrow with hfirst | hrow
      · have hsays := saysOf_group (.field name) (saysOf_bodyLabels value (path.field name)) hfirst
        exact hsays.mono (List.subset_append_left _ _)
      · exact hrest hrow
    · rw [if_neg hshown] at hrow
      exact hrest hrow

theorem saysOf_elementLabels (items : List Value) (path : Path) (i level : Nat) (row : Row)
    (hrow : row ∈ labelRows flags (elementLabels rules items path i) level) :
    row.SaysOf rules flags (Value.insideItems items path i) := by
  match items with
  | [] => exact absurd hrow List.not_mem_nil
  | value :: rest =>
    rw [Value.insideItems_cons]
    rw [elementLabels, labelRows, List.mem_append] at hrow
    -- a row of the first element, or of a later one
    rcases hrow with hfirst | hrow
    · have hsays := saysOf_group (.index i) (saysOf_bodyLabels value (path.index i)) hfirst
      exact hsays.mono (List.subset_append_left _ _)
    · exact (saysOf_elementLabels rest path (i + 1) level row hrow).mono
        (List.subset_append_right _ _)

theorem saysOf_itemLabels (items : List Value) (own : Path) (i level : Nat) (row : Row)
    (hrow : row ∈ labelRows flags (itemLabels rules items own i) level) :
    row.SaysOf rules flags (Value.insideItems items own i) := by
  match items with
  | [] => exact absurd hrow List.not_mem_nil
  | value :: rest =>
    rw [Value.insideItems_cons]
    rw [itemLabels, labelRows_append, List.mem_append] at hrow
    rcases hrow with hfirst | hrow
    · exact (saysOf_labels value (own.index i) level row hfirst).mono (List.subset_append_left _ _)
    · exact (saysOf_itemLabels rest own (i + 1) level row hrow).mono (List.subset_append_right _ _)

end

/-- **Every row says something of a value in the tree.** -/
theorem exists_entry_of_mem_rows {tree : Option Value} {store : ExpansionStore}
    (hrow : row ∈ (renderRoot rules tree store).1.rows) :
    ∃ value ∈ tree, row.SaysOf rules (store.flags rules) (value.located []) := by
  rw [rows_renderRoot] at hrow
  cases tree with
  | none => exact absurd hrow List.not_mem_nil
  | some value => exact ⟨value, rfl, saysOf_labels value [] 0 row hrow⟩

/-! ### Line ends in them -/

/-- The kinds and the field names of a tree have no line end in them. -/
structure Value.LabelsUnbroken (tree : Value) (tags : TagKeys) : Prop where
  kinds : ∀ entry ∈ tree.located [], ∀ kind ∈ entry.2.kind? tags, '\n' ∉ kind.toList
  names : ∀ entry ∈ tree.located [], ∀ name, Step.field name ∈ entry.1 → '\n' ∉ name.toList

namespace Caption

variable {entry : Path × Value} {caption : Caption}

/-- What a field shows of its value has no line end, whatever strings are in the value. -/
theorem Of.newline_not_mem_detail (h : Caption.Of rules entry caption) {detail : String}
    (hdetail : detail ∈ caption.detail) : '\n' ∉ detail.toList := by
  cases h with
  | node htag => exact nomatch hdetail
  | group path step value =>
    cases value with
    | map fields => exact nomatch hdetail
    | list items =>
      cases items with
      | nil =>
        obtain rfl : "[]" = detail := Option.some.inj hdetail
        decide
      | cons item rest => exact nomatch hdetail
    -- only a scalar shows its text, and there a line end is escaped
    | null | bool _ | int _ | float _ | str _ =>
      obtain rfl : literal (some _) = detail := Option.some.inj hdetail
      exact newline_not_mem_literal _

/-- A line end in a label is one of a kind or of a field name. -/
theorem Of.newline_not_mem_label (h : Caption.Of rules entry caption) {tree : Value}
    (hentry : entry ∈ tree.located []) (htree : tree.LabelsUnbroken rules.tagKeys) :
    '\n' ∉ caption.label.toList := by
  cases h with
  | node htag => exact htree.kinds _ hentry _ htag
  | group path step value =>
    have hlabel : (Caption.ofGroup (path ++ [step]) step.text value).label = step.text := by
      cases value <;> rfl
    rw [hlabel]
    -- A position in a list has no line end in it, whatever the tree.
    cases step with
    | field name =>
      exact htree.names _ hentry name (List.mem_append_right _ List.mem_cons_self)
    | index i => exact newline_not_mem_repr i

end Caption

/-! ### Lines -/

/-- The only line ends in the text of a row are those of its label. -/
theorem Row.count_newline_text (hdetail : ∀ detail ∈ row.detail, '\n' ∉ detail.toList) :
    row.text.toList.count '\n' = row.label.toList.count '\n' := by
  have hmark : ((if row.active then "*" else "") : String).toList.count '\n' = 0 := by
    split <;> decide
  unfold Row.text
  dsimp only
  -- the mark, the detail and the sign behind the label have no line end
  cases hshown : row.detail with
  | some detail =>
    have hcount : detail.toList.count '\n' = 0 := List.count_eq_zero.2 (hdetail detail hshown)
    simp only [String.toList_append, List.count_append, hmark, hcount]
    simp
  | none =>
    cases row.toggle <;> simp [Toggle.mark?, hmark, List.count_append]

/-- A line is two blanks for each level and the text of the row. -/
theorem Row.toList_line (row : Row) :
    row.line.toList = List.replicate (2 * row.level) ' ' ++ row.text.toList := by
  rw [Row.line, Row.indentation, String.toList_append, String.toList_ofList]

/-- The text of an outline is its rows as lines, each with its end. -/
theorem Visual.toList_text (visual : Visual) :
    visual.text.toList = (visual.rows.map fun row => row.line.toList).flatMap (· ++ ['\n']) := by
  simp [Visual.text, String.toList_join, List.flatMap_map]

/-- The line ends of rows as lines are those of the labels and one behind each row. -/
theorem count_newline_lines {rows : List Row}
    (h : ∀ row ∈ rows, row.line.toList.count '\n' = row.label.toList.count '\n') :
    ((rows.map fun row => row.line.toList).flatMap (· ++ ['\n'])).count '\n' =
      rows.length + (rows.map fun row => row.label.toList.count '\n').sum := by
  induction rows with
  | nil => rfl
  | cons row rows ih =>
    have hrow := h row List.mem_cons_self
    have hrest := ih fun other hother => h other (List.mem_cons_of_mem _ hother)
    rw [List.map_cons, List.flatMap_cons, List.count_append, List.count_append, hrow, hrest,
      List.map_cons, List.sum_cons, List.length_cons, List.count_singleton_self]
    omega

/-- **How an outline falls into lines.** The text of a rendered tree is its rows one line each, two
blanks per level in front, exactly when no label has a line end in it; it has one line end for each
row and those that are in labels, whatever strings the values are; and where no kind and no field
name of the tree has a line end in it, no label has. -/
theorem text_lines (rules : DisplayRules) (tree : Option Value) (store : ExpansionStore) :
    let visual := (renderRoot rules tree store).1
    (splitLines visual.text.toList =
        visual.rows.map (fun row => List.replicate (2 * row.level) ' ' ++ row.text.toList) ++ [[]] ↔
      ∀ row ∈ visual.rows, '\n' ∉ row.label.toList) ∧
    visual.text.toList.count '\n' =
      visual.rows.length + (visual.rows.map fun row => row.label.toList.count '\n').sum ∧
    ((∀ value ∈ tree, value.LabelsUnbroken rules.tagKeys) →
      ∀ row ∈ visual.rows, '\n' ∉ row.label.toList) := by
  intro visual
  -- A row has the caption of a value in the tree, so what it shows beside its label is one line.
  have hcount (row : Row) (hrow : row ∈ visual.rows) :
      row.line.toList.count '\n' = row.label.toList.count '\n' := by
    obtain ⟨value, -, entry, -, caption, level, hof, rfl⟩ := exists_entry_of_mem_rows hrow
    rw [Row.toList_line, List.count_append, List.count_replicate, if_neg (by decide), Nat.zero_add]
    exact Row.count_newline_text fun detail hdetail => hof.newline_not_mem_detail hdetail
  refine ⟨?_, ?_, fun htree row hrow => ?_⟩
  · simp only [← Row.toList_line]
    rw [Visual.toList_text, splitLines_join_eq_iff, List.forall_mem_map]
    refine forall₂_congr fun row hrow => ?_
    rw [← List.count_eq_zero, hcount row hrow, List.count_eq_zero]
  · rw [Visual.toList_text]
    exact count_newline_lines hcount
  · obtain ⟨value, hvalue, entry, hentry, caption, level, hof, rfl⟩ :=
      exists_entry_of_mem_rows hrow
    exact hof.newline_not_mem_label hentry (htree value hvalue)

/-- A name with a line end in it, in a tree whose kinds and field names have none: the text has one
line for each row. -/
theorem text_lines_escaped :
    let tree : Value := .map [("type", .str "If"), ("name", .str "a\nb")]
    let rules : DisplayRules := { DisplayRules.standard with whitelist := ["name"] }
    let visual := (renderRoot rules (some tree) .empty).1
    tree.LabelsUnbroken rules.tagKeys ∧ (∀ row ∈ visual.rows, '\n' ∉ row.label.toList) ∧
      splitLines visual.text.toList =
        ["If -".toList, "  name: \"a\\nb\"".toList, []] := by
  intro tree rules visual
  have hunbroken : tree.LabelsUnbroken rules.tagKeys := by
    constructor
    · decide
    · simp [tree, Value.located, Value.inside, Value.insideFields, Path.field]
  obtain ⟨hlines, -, hlabels⟩ := text_lines rules (some tree) .empty
  have hrows : ∀ row ∈ visual.rows, '\n' ∉ row.label.toList :=
    hlabels fun value hvalue => Option.some.inj hvalue ▸ hunbroken
  -- a line end in a value is no line end in the text
  have hvisual : visual = .node [] 0 "If" .opened false none
      [.mk [.field "name"] 1 "name" (.literal "\"a\\nb\"")] := by
    unfold visual rules tree
    cbv
  refine ⟨hunbroken, hrows, (hlines.2 hrows).trans ?_⟩
  show visual.rows.map _ ++ [[]] = _
  rw [hvisual]
  decide

/-- A kind with a line end in it makes two lines of the one row of its node, while a line end in the
value of a field is escaped. -/
theorem text_breaks_kind :
    let tree : Value := .map [("type", .str "If\nElse"), ("name", .str "a\nb")]
    let rules : DisplayRules := { DisplayRules.standard with whitelist := ["name"] }
    let visual := (renderRoot rules (some tree) .empty).1
    visual.rows.map (fun row => (row.level, row.text)) =
        [(0, "If\nElse -"), (1, "name: \"a\\nb\"")] ∧
      visual.text = "If\nElse -\n  name: \"a\\nb\"\n" ∧
      visual.text.toList.count '\n' ≠ visual.rows.length ∧
      splitLines visual.text.toList ≠
        visual.rows.map (fun row => List.replicate (2 * row.level) ' ' ++ row.text.toList) ++
          [[]] := by
  intro tree rules visual
  have hvisual : visual = .node [] 0 "If\nElse" .opened false none
      [.mk [.field "name"] 1 "name" (.literal "\"a\\nb\"")] := by
    unfold visual rules tree
    cbv
  -- the line end of the kind breaks the line, the one of the value is escaped
  rw [hvisual]
  decide

end TreeOutline
