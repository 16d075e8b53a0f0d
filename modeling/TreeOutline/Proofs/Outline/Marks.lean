import TreeOutline.Proofs.Outline.Label

namespace TreeOutline

/-!
# Marks and snippets

A node may be marked, and it may carry a snippet.  Nothing else depends on either.

* `Remark` — a change of marks and snippets; `Visual.remark`, `Row.remark` — what it makes of a
  visual and of a row.
* `rowsAt_remark` — it changes the rows of a visual one by one; `toggleKeys_remark` — and none of
  the labels that a pass visits.
* `DisplayRules.AgreeUpTo` — two sets of rules that differ only in what a change takes away.
* `renderRoot_remark`, `AgreeUpTo.renderRoot_snd` — **such rules show the same up to the change, and
  leave the same store**.
* `Visual.text_eq_of_dropSnippets` — the text of a visual does not depend on its snippets.
-/

/-- A change of marks and snippets that marks nothing and adds no snippet. -/
structure Remark where
  active : Bool → Bool
  snippet : Option String → Option String
  active_false : active false = false
  snippet_none : snippet none = none

namespace Remark

/-- Takes all snippets away. -/
def dropSnippets : Remark := ⟨id, fun _ => none, rfl, rfl⟩

/-- Takes all marks away. -/
def dropMarks : Remark := ⟨fun _ => false, id, rfl, rfl⟩

/-- Takes all marks and all snippets away. -/
def dropAll : Remark := ⟨fun _ => false, fun _ => none, rfl, rfl⟩

end Remark

/-! ### Visuals and rows -/

mutual

/-- The visual with the marks and the snippets of its nodes changed. -/
def Visual.remark (r : Remark) : Visual → Visual
  | .empty => .empty
  | .node path depth kind toggle active snippet groups =>
    .node path depth kind toggle (r.active active) (r.snippet snippet) (remarkGroups r groups)
  | .fragment groups => .fragment (remarkGroups r groups)

/-- The group with those inside it changed. -/
def Group.remark (r : Remark) : Group → Group
  | .mk path depth name body => .mk path depth name (body.remark r)

/-- What a group shows, with those inside it changed. -/
def Body.remark (r : Remark) : Body → Body
  | .literal text => .literal text
  | .empty => .empty
  | .children isOpen count items => .children isOpen count (remarkItems r items)

/-- Groups one after the other. -/
def remarkGroups (r : Remark) : List Group → List Group
  | [] => []
  | group :: rest => group.remark r :: remarkGroups r rest

/-- Items one after the other. -/
def remarkItems (r : Remark) : List Visual → List Visual
  | [] => []
  | visual :: rest => visual.remark r :: remarkItems r rest

end

/-- The row with its mark and its snippet changed. -/
def Row.remark (r : Remark) (row : Row) : Row :=
  { row with active := r.active row.active, snippet := r.snippet row.snippet }

mutual

/-- **The rows of a changed visual** are those of the visual, each changed. -/
theorem rowsAt_remark (r : Remark) (visual : Visual) (level : Nat) :
    (visual.remark r).rowsAt level = (visual.rowsAt level).map (Row.remark r) := by
  -- the levels and keys are computed without a look at marks or snippets
  match visual with
  | .empty => rfl
  | .node path depth kind toggle active snippet groups =>
    rw [Visual.remark, Visual.rowsAt, Visual.rowsAt, List.map_cons, groupRows_remark]
    rfl
  | .fragment groups =>
    rw [Visual.remark, Visual.rowsAt, Visual.rowsAt, groupRows_remark]

/-- Marking a group anew marks its rows anew. -/
theorem Group.rowsAt_remark (r : Remark) (group : Group) (level : Nat) :
    (group.remark r).rowsAt level = (group.rowsAt level).map (Row.remark r) := by
  match group with
  | .mk path depth name body =>
    -- A group's own row is not marked and has no snippet, and a change adds neither.
    have hown (row : Row) (hactive : row.active = false) (hsnippet : row.snippet = none) :
        row.remark r = row := by
      unfold Row.remark
      rw [hactive, hsnippet, r.active_false, r.snippet_none, ← hactive, ← hsnippet]
    rw [Group.remark, Group.rowsAt, Group.rowsAt, List.map_cons, hown _ rfl rfl]
    match body with
    | .literal text => rfl
    | .empty => rfl
    | .children isOpen count items =>
      rw [Body.remark, Body.rowsAt, Body.rowsAt, itemRows_remark]
      rfl

/-- The same for groups one after the other. -/
theorem groupRows_remark (r : Remark) (groups : List Group) (level : Nat) :
    groupRows (remarkGroups r groups) level = (groupRows groups level).map (Row.remark r) := by
  match groups with
  | [] => rfl
  | group :: rest =>
    rw [remarkGroups, groupRows, groupRows, List.map_append, Group.rowsAt_remark,
      groupRows_remark r rest]

theorem itemRows_remark (r : Remark) (items : List Visual) (level : Nat) :
    itemRows (remarkItems r items) level = (itemRows items level).map (Row.remark r) := by
  match items with
  | [] => rfl
  | visual :: rest =>
    rw [remarkItems, itemRows, itemRows, List.map_append, rowsAt_remark, itemRows_remark r rest]

end

/-- Which rows have a toggle depends on no mark and on no snippet. -/
theorem toggleKeysOf_remark (r : Remark) (rows : List Row) :
    toggleKeysOf (rows.map (Row.remark r)) = toggleKeysOf rows := by
  unfold toggleKeysOf
  rw [List.filter_map, List.map_map]
  rfl

/-- A change keeps the labels that can be opened or closed. -/
theorem toggleKeys_remark (r : Remark) (visual : Visual) :
    (visual.remark r).toggleKeys = visual.toggleKeys := by
  rw [toggleKeys_eq_rowsAt _ 0, toggleKeys_eq_rowsAt _ 0, rowsAt_remark, toggleKeysOf_remark]

/-- The text of a visual does not depend on its snippets. -/
theorem Visual.text_eq_of_dropSnippets {visual other : Visual}
    (h : visual.remark .dropSnippets = other.remark .dropSnippets) : visual.text = other.text := by
  -- A line shows no snippet, so it is the line of the row without it.
  have hlines (visual : Visual) : visual.text =
      String.join ((visual.remark .dropSnippets).rows.map fun row => row.line ++ "\n") := by
    rw [rows, rowsAt_remark, List.map_map]
    rfl
  rw [hlines visual, hlines other, h]

/-! ### Rules that show the same -/

/-- The rules differ at most in the active kind and in the source text, and the change takes away
what comes of that. -/
structure DisplayRules.AgreeUpTo (r : Remark) (rules other : DisplayRules) : Prop where
  variant : rules.variant = other.variant
  openDepth : rules.openDepth = other.openDepth
  whitelist : rules.whitelist = other.whitelist
  tagKeys : rules.tagKeys = other.tagKeys
  active : ∀ kind, r.active (rules.isActive kind) = r.active (other.isActive kind)
  snippet : ∀ fields, r.snippet (rules.snippetOf fields) = r.snippet (other.snippetOf fields)

namespace DisplayRules

variable {r : Remark} {rules other : DisplayRules}

/-- Rules that agree up to marks show the same fields. -/
theorem AgreeUpTo.showsField (h : rules.AgreeUpTo r other) :
    rules.showsField = other.showsField := by
  funext name value
  unfold DisplayRules.showsField
  rw [h.variant, h.whitelist, h.tagKeys]

/-- The rules say the same of what starts open. -/
theorem AgreeUpTo.flags (h : rules.AgreeUpTo r other) (store : ExpansionStore) :
    store.flags rules = store.flags other :=
  ExpansionStore.flags_eq_of_openDepth h.openDepth store

/-- Rules that differ in the active kind and in the source text agree up to a change that hides what
comes of that. -/
theorem agreeUpTo_of_hidden {kind source : Option String}
    (hactive : ∀ name, r.active (isActive { rules with activeKind := kind } name) =
      r.active (rules.isActive name))
    (hsnippet : ∀ fields, r.snippet (snippetOf { rules with sourceText := source } fields) =
      r.snippet (rules.snippetOf fields)) :
    AgreeUpTo r { rules with activeKind := kind, sourceText := source } rules where
  variant := rfl
  openDepth := rfl
  whitelist := rfl
  tagKeys := rfl
  active := hactive
  snippet := hsnippet

/-- Rules that differ in both agree up to marks and snippets. -/
theorem agreeUpTo_dropAll (rules : DisplayRules) (kind source : Option String) :
    AgreeUpTo .dropAll { rules with activeKind := kind, sourceText := source } rules :=
  agreeUpTo_of_hidden (fun _ => rfl) fun _ => rfl

/-- Rules that differ in the active kind agree up to the marks. -/
theorem agreeUpTo_activeKind (rules : DisplayRules) (kind : Option String) :
    AgreeUpTo .dropMarks { rules with activeKind := kind } rules :=
  agreeUpTo_of_hidden (fun _ => rfl) fun _ => rfl

/-- Rules that differ in the source text agree up to the snippets. -/
theorem agreeUpTo_sourceText (rules : DisplayRules) (source : Option String) :
    AgreeUpTo .dropSnippets { rules with sourceText := source } rules :=
  agreeUpTo_of_hidden (fun _ => rfl) fun _ => rfl

end DisplayRules

section

variable {r : Remark} {rules other : DisplayRules}

/-- A map looks the same up to the change, provided its groups do. -/
theorem viewMap_remark (h : rules.AgreeUpTo r other) (flags : Flags)
    {fields : List (String × Value)} {path : Path} {depth : Nat}
    {groups groups' : (String → Value → Bool) → List Group}
    (hgroups : ∀ shown, remarkGroups r (groups shown) = remarkGroups r (groups' shown)) :
    (viewMap rules flags fields path depth groups).remark r =
      (viewMap other flags fields path depth groups').remark r := by
  unfold viewMap
  rw [h.tagKeys]
  cases other.tagKeys.tagOf fields with
  | none =>
    dsimp only
    rw [Visual.remark, Visual.remark, hgroups]
  | some kind =>
    dsimp only
    rw [Visual.remark, Visual.remark, h.active, h.snippet, h.showsField]
    -- The toggle is the same in both, so both look at their groups or neither does.
    have hbelow (toggle : Toggle) :
        remarkGroups r (if toggle.isOpen then groups other.showsField else []) =
          remarkGroups r (if toggle.isOpen then groups' other.showsField else []) := by
      split
      · exact hgroups _
      · rfl
    rw [hbelow]

mutual

/-- **Such rules show the same** of a value under the same flags. -/
theorem view_remark (h : rules.AgreeUpTo r other) (flags : Flags) (value : Value) (path : Path)
    (depth : Nat) :
    (view rules flags value path depth).remark r =
      (view other flags value path depth).remark r := by
  -- both renderings make the same choices, since they share every rule but the marks
  cases value with
  | map fields =>
    rw [view, view]
    exact viewMap_remark h flags fun shown =>
      viewFields_remark h flags fields shown path (depth + 1)
  | list items =>
    rw [view, view, Visual.remark, Visual.remark,
      viewElements_remark h flags items path 0 (depth + 1)]
  | null | bool b | int n | float x | str s => rfl

/-- Rules that agree up to marks view a body alike once it is marked anew. -/
theorem viewBody_remark (h : rules.AgreeUpTo r other) (flags : Flags) (value : Value)
    (own : Path) (depth : Nat) :
    (viewBody rules flags value own depth).remark r =
      (viewBody other flags value own depth).remark r := by
  cases value with
  | map fields =>
    rw [viewBody, viewBody, Body.remark, Body.remark]
    split
    · rw [remarkItems, remarkItems,
        viewMap_remark h flags fun shown =>
          viewFields_remark h flags fields shown own (depth + 2)]
      rfl
    · -- a closed group, or an empty list, has nothing inside to mark
      rfl
  | list items =>
    rw [viewBody, viewBody]
    split
    · rfl
    · rw [Body.remark, Body.remark]
      split
      · rw [viewItems_remark h flags items own 0 (depth + 1)]
      · rfl
  | null | bool b | int n | float x | str s => rfl

/-- The case of the fields of an object. -/
theorem viewFields_remark (h : rules.AgreeUpTo r other) (flags : Flags)
    (fields : List (String × Value)) (shown : String → Value → Bool) (path : Path) (depth : Nat) :
    remarkGroups r (viewFields rules flags fields shown path depth) =
      remarkGroups r (viewFields other flags fields shown path depth) := by
  match fields with
  | [] => rfl
  | (name, value) :: rest =>
    rw [viewFields, viewFields]
    split
    · rw [remarkGroups, remarkGroups, Group.remark, Group.remark,
        viewBody_remark h flags value (path.field name) depth,
        viewFields_remark h flags rest shown path depth]
    · exact viewFields_remark h flags rest shown path depth

theorem viewElements_remark (h : rules.AgreeUpTo r other) (flags : Flags) (items : List Value)
    (path : Path) (i depth : Nat) :
    remarkGroups r (viewElements rules flags items path i depth) =
      remarkGroups r (viewElements other flags items path i depth) := by
  match items with
  | [] => rfl
  | value :: rest =>
    rw [viewElements, viewElements, remarkGroups, remarkGroups, Group.remark, Group.remark,
      viewBody_remark h flags value (path.index i) depth,
      viewElements_remark h flags rest path (i + 1) depth]

theorem viewItems_remark (h : rules.AgreeUpTo r other) (flags : Flags) (items : List Value)
    (own : Path) (i depth : Nat) :
    remarkItems r (viewItems rules flags items own i depth) =
      remarkItems r (viewItems other flags items own i depth) := by
  match items with
  | [] => rfl
  | value :: rest =>
    rw [viewItems, viewItems, remarkItems, remarkItems,
      view_remark h flags value (own.index i) depth,
      viewItems_remark h flags rest own (i + 1) depth]

end

end

/-- **Marks and snippets decide nothing else.** Rules that agree up to a change of marks and
snippets show the same of a tree up to this change. -/
theorem renderRoot_remark {r : Remark} {rules other : DisplayRules} (h : rules.AgreeUpTo r other)
    (tree : Option Value) (store : ExpansionStore) :
    (renderRoot rules tree store).1.remark r = (renderRoot other tree store).1.remark r := by
  rw [renderRoot_fst, renderRoot_fst, h.flags store]
  cases tree with
  | none => rfl
  | some value => exact view_remark h _ value [] 0

/-- Such rules show the same rows up to the change. -/
theorem rows_renderRoot_remark {r : Remark} {rules other : DisplayRules}
    (h : rules.AgreeUpTo r other) (tree : Option Value) (store : ExpansionStore) :
    (renderRoot rules tree store).1.rows.map (Row.remark r) =
      (renderRoot other tree store).1.rows.map (Row.remark r) := by
  unfold Visual.rows
  rw [← rowsAt_remark, ← rowsAt_remark, renderRoot_remark h]

/-- **Marks and snippets leave no trace.** Such rules visit the same labels and seed them alike, so
a pass leaves the same store. -/
theorem DisplayRules.AgreeUpTo.renderRoot_snd {r : Remark} {rules other : DisplayRules}
    (h : rules.AgreeUpTo r other) (tree : Option Value) (store : ExpansionStore) :
    (renderRoot rules tree store).2 = (renderRoot other tree store).2 := by
  have hkeys : (renderRoot rules tree store).1.toggleKeys =
      (renderRoot other tree store).1.toggleKeys := by
    rw [← toggleKeys_remark r, renderRoot_remark h, toggleKeys_remark]
  rw [renderRoot_fst, renderRoot_fst] at hkeys
  rw [renderRoot_eq, renderRoot_eq, hkeys,
    ExpansionStore.visitAll_eq_of_openDepth h.openDepth]

end TreeOutline
