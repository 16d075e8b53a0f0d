import TreeOutline.Tree.Span

namespace TreeOutline

/-!
# The values of a tree in pre-order

* `Value.located` — a value and all values in it, each with its path: a value before those in it,
  the fields of a map and the items of a list in their order.
* `Value.mem_located_iff` — these are the values that the paths lead to.
* `Value.spansOf_eq_located` — the spans of a kind are read off the values in this order.
-/

namespace Value

/-! ### Values with their paths -/

mutual

/-- The values inside a value at `path`, each with its path. -/
def inside : Value → Path → List (Path × Value)
  | .map fields, path => insideFields fields path
  | .list items, path => insideItems items path 0
  | _, _ => []

/-- The values of fields and those inside them. -/
def insideFields : List (String × Value) → Path → List (Path × Value)
  | [], _ => []
  | (name, value) :: rest, path =>
    (path.field name, value) :: value.inside (path.field name) ++ insideFields rest path

/-- The items of a list from position `i` on and the values inside them. -/
def insideItems : List Value → Path → (i : Nat) → List (Path × Value)
  | [], _, _ => []
  | value :: rest, path, i =>
    (path.index i, value) :: value.inside (path.index i) ++ insideItems rest path (i + 1)

end

/-- A value at `path` and all values inside it, each with its path. -/
def located (value : Value) (path : Path) : List (Path × Value) :=
  (path, value) :: value.inside path

/-- The values inside fields, field by field. -/
theorem insideFields_cons (name : String) (value : Value) (rest : List (String × Value))
    (path : Path) :
    insideFields ((name, value) :: rest) path =
      value.located (path.field name) ++ insideFields rest path := by
  rw [insideFields, located]

/-- The values inside items, item by item. -/
theorem insideItems_cons (value : Value) (rest : List Value) (path : Path) (i : Nat) :
    insideItems (value :: rest) path i =
      value.located (path.index i) ++ insideItems rest path (i + 1) := by
  rw [insideItems, located]

/-! ### One step down -/

/-- Where the names of fields are distinct, a name leads to the value of its field. -/
theorem lookup_eq_some_iff {fields : List (String × Value)} {name : String} {value : Value}
    (names : (fields.map Prod.fst).Nodup) :
    fields.lookup name = some value ↔ (name, value) ∈ fields := by
  induction fields with
  | nil => simp
  | cons field rest ih =>
    obtain ⟨first, other⟩ := field
    rw [List.map_cons, List.nodup_cons] at names
    by_cases hname : name = first
    · subst hname
      rw [List.lookup_cons_self, List.mem_cons, Prod.mk.injEq, Option.some.injEq, eq_comm]
      refine ⟨fun heq => .inl ⟨rfl, heq⟩, ?_⟩
      rintro (⟨-, heq⟩ | hrest)
      · exact heq
      · -- a second field of this name is excluded
        exact absurd (List.mem_map_of_mem hrest) names.1
    · rw [List.lookup_cons, beq_false_of_ne hname, List.mem_cons, ih names.2, Prod.mk.injEq]
      exact ⟨.inr, fun h => h.resolve_left fun heq => hname heq.1⟩

/-- Fields are well formed where each value is. -/
theorem fieldsWellFormed_iff {fields : List (String × Value)} :
    FieldsWellFormed fields ↔ ∀ field ∈ fields, field.2.WellFormed := by
  induction fields with
  | nil => simp [FieldsWellFormed]
  | cons field rest ih => rw [List.forall_mem_cons, ← ih, FieldsWellFormed]

/-- Items are well formed where each one is. -/
theorem itemsWellFormed_iff {items : List Value} :
    ItemsWellFormed items ↔ ∀ item ∈ items, item.WellFormed := by
  induction items with
  | nil => simp [ItemsWellFormed]
  | cons item rest ih => rw [List.forall_mem_cons, ← ih, ItemsWellFormed]

/-- The value one step down is well formed and smaller. -/
theorem child_wellFormed {value next : Value} {step : Step} (wf : value.WellFormed)
    (hchild : value.child? step = some next) : next.WellFormed ∧ sizeOf next < sizeOf value := by
  -- a name goes into a map, an index into a list; no other step leads anywhere
  match value, step, hchild with
  | .map fields, .field name, hchild =>
    rw [WellFormed] at wf
    have hmem : (name, next) ∈ fields := (lookup_eq_some_iff wf.1).1 hchild
    have hsize : sizeOf (name, next) < sizeOf fields := List.sizeOf_lt_of_mem hmem
    simp only [Prod.mk.sizeOf_spec, map.sizeOf_spec] at hsize ⊢
    exact ⟨fieldsWellFormed_iff.1 wf.2 (name, next) hmem, by omega⟩
  | .list items, .index i, hchild =>
    rw [WellFormed] at wf
    have hmem : next ∈ items := List.mem_of_getElem? hchild
    have hsize : sizeOf next < sizeOf items := List.sizeOf_lt_of_mem hmem
    simp only [list.sizeOf_spec]
    exact ⟨itemsWellFormed_iff.1 wf next hmem, by omega⟩

/-! ### They are the values that the paths lead to -/

/-- A value inside fields lies in one of them. -/
theorem mem_insideFields {fields : List (String × Value)} {path : Path} {entry : Path × Value} :
    entry ∈ insideFields fields path ↔
      ∃ field ∈ fields, entry ∈ field.2.located (path.field field.1) := by
  induction fields with
  | nil => simp [insideFields]
  | cons field rest ih =>
    obtain ⟨name, value⟩ := field
    rw [insideFields_cons, List.mem_append, ih]
    simp only [List.mem_cons, exists_eq_or_imp]

/-- A value inside items lies in one of them, under its number. -/
theorem mem_insideItems {items : List Value} {path : Path} {i : Nat} {entry : Path × Value} :
    entry ∈ insideItems items path i ↔
      ∃ j, ∃ value : Value, items[j]? = some value ∧
        entry ∈ value.located (path.index (i + j)) := by
  induction items generalizing i with
  | nil => simp [insideItems]
  | cons item rest ih =>
    rw [insideItems_cons, List.mem_append, ih]
    constructor
    · -- the index counts from the start of the whole list
      rintro (hfirst | ⟨j, value, hj, hentry⟩)
      · exact ⟨0, item, rfl, hfirst⟩
      · exact ⟨j + 1, value, hj, by rwa [Nat.add_assoc, Nat.add_comm 1 j] at hentry⟩
    · rintro ⟨_ | j, value, hj, hentry⟩
      · obtain rfl : item = value := Option.some.inj hj
        exact .inl hentry
      · exact .inr ⟨j, value, hj, by rwa [Nat.add_assoc, Nat.add_comm 1 j]⟩

/-- What is inside a value is one step down, or inside the value there. -/
theorem mem_inside_iff {value : Value} (wf : value.WellFormed) {path : Path}
    {entry : Path × Value} :
    entry ∈ value.inside path ↔
      ∃ step next, value.child? step = some next ∧ entry ∈ next.located (path ++ [step]) := by
  cases value with
  | map fields =>
    rw [WellFormed] at wf
    rw [inside, mem_insideFields]
    constructor
    · rintro ⟨⟨name, value⟩, hfield, hentry⟩
      exact ⟨.field name, value, (lookup_eq_some_iff wf.1).2 hfield, hentry⟩
    · rintro ⟨step, next, hchild, hentry⟩
      cases step with
      | field name => exact ⟨(name, next), (lookup_eq_some_iff wf.1).1 hchild, hentry⟩
      | index i => exact nomatch hchild
  | list items =>
    rw [inside, mem_insideItems]
    constructor
    · rintro ⟨j, value, hj, hentry⟩
      rw [Nat.zero_add] at hentry
      exact ⟨.index j, value, hj, hentry⟩
    · rintro ⟨step, next, hchild, hentry⟩
      cases step with
      | field name => exact nomatch hchild
      | index i => exact ⟨i, next, hchild, by rwa [Nat.zero_add]⟩
  -- a scalar has neither entries inside nor children
  | null | bool b | int n | float x | str s =>
    refine iff_of_false List.not_mem_nil ?_
    rintro ⟨step, next, hchild, -⟩
    exact nomatch hchild

/-- **The values of a tree** are those that the paths lead to. -/
theorem mem_located_iff {value : Value} (wf : value.WellFormed) {path other : Path}
    {found : Value} :
    (other, found) ∈ value.located path ↔
      ∃ rest, other = path ++ rest ∧ value.at? rest = some found := by
  rw [located, List.mem_cons, mem_inside_iff wf]
  constructor
  · rintro (heq | ⟨step, next, hchild, hmem⟩)
    · injection heq with hpath hfound
      exact ⟨[], by rw [hpath, List.append_nil], by rw [hfound, at?_nil]⟩
    · have hnext := child_wellFormed wf hchild
      obtain ⟨rest, rfl, hat⟩ := (mem_located_iff hnext.1).1 hmem
      exact ⟨step :: rest, by simp, by rw [at?_cons, hchild]; exact hat⟩
  · rintro ⟨_ | ⟨step, rest⟩, rfl, hat⟩
    · rw [at?_nil, Option.some.injEq] at hat
      exact .inl (by rw [hat, List.append_nil])
    · rw [at?_cons, Option.bind_eq_some_iff] at hat
      obtain ⟨next, hchild, hat⟩ := hat
      -- the recursion is on the size of the value: a child is smaller
      have hnext := child_wellFormed wf hchild
      exact .inr ⟨step, next, hchild, (mem_located_iff hnext.1).2 ⟨rest, by simp, hat⟩⟩
termination_by sizeOf value

/-- The values of a whole tree. -/
theorem mem_located_nil_iff {value : Value} (wf : value.WellFormed) {path : Path} {found : Value} :
    (path, found) ∈ value.located [] ↔ value.at? path = some found := by
  rw [mem_located_iff wf]
  constructor
  · rintro ⟨rest, rfl, hat⟩
    exact hat
  · exact fun hat => ⟨path, rfl, hat⟩

/-! ### Spans -/

/-- The span that a map carries. -/
def span? : Value → Option Span
  | .map fields => nodeSpan? fields
  | _ => none

/-- The span of a node of the kind. -/
def spanOf? (tags : TagKeys) (kind : String) (value : Value) : Option Span :=
  if value.kind? tags = some kind then value.span? else none

mutual

/-- **Spans in pre-order.** The spans of a kind are those of its nodes among the located values. -/
theorem spansOf_eq_located (tags : TagKeys) (kind : String) (value : Value) (path : Path) :
    value.spansOf tags kind =
      (value.located path).filterMap fun entry => entry.2.spanOf? tags kind := by
  rw [located, List.filterMap_cons]
  cases value with
  | map fields =>
    rw [spansOf, fieldSpans_eq_inside tags kind fields path, inside]
    dsimp only
    -- the node's own span comes first if it is of the kind, then those inside
    by_cases hkind : tags.tagOf fields = some kind
    · rw [if_pos hkind, show (map fields).spanOf? tags kind = nodeSpan? fields from if_pos hkind]
      cases nodeSpan? fields with
      | none => rfl
      | some span => rfl
    · rw [if_neg hkind, show (map fields).spanOf? tags kind = none from if_neg hkind]
      rfl
  | list items =>
    rw [spansOf, itemSpans_eq_inside tags kind items path 0, inside]
    rfl
  | null | bool b | int n | float x | str s => rfl

/-- The case of the fields of an object. -/
theorem fieldSpans_eq_inside (tags : TagKeys) (kind : String) (fields : List (String × Value))
    (path : Path) :
    fieldSpans tags kind fields =
      (insideFields fields path).filterMap fun entry => entry.2.spanOf? tags kind := by
  match fields with
  | [] => rfl
  | (name, value) :: rest =>
    rw [fieldSpans, insideFields_cons, List.filterMap_append,
      spansOf_eq_located tags kind value (path.field name),
      fieldSpans_eq_inside tags kind rest path]

theorem itemSpans_eq_inside (tags : TagKeys) (kind : String) (items : List Value) (path : Path)
    (i : Nat) :
    itemSpans tags kind items =
      (insideItems items path i).filterMap fun entry => entry.2.spanOf? tags kind := by
  match items with
  | [] => rfl
  | value :: rest =>
    rw [itemSpans, insideItems_cons, List.filterMap_append,
      spansOf_eq_located tags kind value (path.index i),
      itemSpans_eq_inside tags kind rest path (i + 1)]

end

end Value

end TreeOutline
