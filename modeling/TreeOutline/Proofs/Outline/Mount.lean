import TreeOutline.Proofs.Outline.Label

namespace TreeOutline

/-!
# Rendering below a path

A value looks the same wherever it stands: what is rendered at a path is what is rendered at the
root, with the path before every other one.

* `LabelKey.under`, `Visual.mount`, `Row.mount` — a label, a visual and a row moved below a path;
  `rowsAt_mount`, `toggleKeys_mount` — the rows of a visual and its labels move with it.
* `DisplayRules.within`, `Flags.within`, `ExpansionStore.within` — rules, flags and a store as they
  look from a path.
* `ExpansionStore.Restricts` — a store has the flags of another one below a path; `Restricts.flags`,
  `Restricts.peek_visitAll` — a pass reads the same in both, and visits keep it so.
* `view_mount` — **a view does not depend on its place**.
* `render_position_independent` — **neither does rendering**, and it leaves the same flags.
-/

/-! ### Paths and keys -/

/-- A field of a mounted path is the mounted field. -/
theorem Path.append_field (path rest : Path) (name : String) :
    Path.field (path ++ rest) name = path ++ rest.field name :=
  List.append_assoc path rest _

/-- An item of a mounted path is the mounted item. -/
theorem Path.append_index (path rest : Path) (i : Nat) :
    Path.index (path ++ rest) i = path ++ rest.index i :=
  List.append_assoc path rest _

namespace LabelKey

/-- The label with a path before its own. -/
def under (key : LabelKey) (path : Path) : LabelKey := ⟨key.role, path ++ key.path⟩

/-- The label as it is named from a path, if it stands there or below. -/
def within? (key : LabelKey) (path : Path) : Option LabelKey :=
  (key.path.dropPrefix? path).map fun rest => ⟨key.role, rest⟩

/-- Mounting below a path keeps keys apart. -/
theorem under_injective (path : Path) : Function.Injective fun key => under key path := by
  rintro ⟨role, rest⟩ ⟨role', rest'⟩ h
  injection h with hrole hpath
  obtain rfl : role = role' := hrole
  obtain rfl : rest = rest' := List.append_cancel_left hpath
  rfl

/-- A key lies below a path exactly where it is another one that is mounted there. -/
theorem within?_eq_some_iff {key inner : LabelKey} {path : Path} :
    key.within? path = some inner ↔ key = inner.under path := by
  obtain ⟨role, own⟩ := key
  obtain ⟨role', rest⟩ := inner
  simp only [within?, under, Option.map_eq_some_iff, List.dropPrefix?_eq_some_iff, mk.injEq,
    beq_iff_eq]
  -- to take a prefix off and to put it in front undo each other
  constructor
  · rintro ⟨_, ⟨_, hown, rfl⟩, hrole, rfl⟩
    exact ⟨hrole, hown⟩
  · rintro ⟨hrole, hown⟩
    exact ⟨rest, ⟨path, hown, rfl⟩, hrole, rfl⟩

end LabelKey

/-! ### Visuals and rows below a path -/

mutual

/-- The visual with `above` before every path, and `deeper` more at every depth. -/
def Visual.mount (above : Path) (deeper : Nat) : Visual → Visual
  | .empty => .empty
  | .node path depth kind toggle active snippet groups =>
    .node (above ++ path) (deeper + depth) kind toggle active snippet
      (mountGroups above deeper groups)
  | .fragment groups => .fragment (mountGroups above deeper groups)

/-- The group with those inside it moved. -/
def Group.mount (above : Path) (deeper : Nat) : Group → Group
  | .mk path depth name body => .mk (above ++ path) (deeper + depth) name (body.mount above deeper)

/-- What a group shows, with those inside it moved. -/
def Body.mount (above : Path) (deeper : Nat) : Body → Body
  | .literal text => .literal text
  | .empty => .empty
  | .children isOpen count items => .children isOpen count (mountItems above deeper items)

/-- Groups one after the other. -/
def mountGroups (above : Path) (deeper : Nat) : List Group → List Group
  | [] => []
  | group :: rest => group.mount above deeper :: mountGroups above deeper rest

/-- Items one after the other. -/
def mountItems (above : Path) (deeper : Nat) : List Visual → List Visual
  | [] => []
  | visual :: rest => visual.mount above deeper :: mountItems above deeper rest

end

/-- The row with a path before that of its key. -/
def Row.mount (above : Path) (row : Row) : Row := { row with key := row.key.under above }

mutual

/-- **The rows of a moved visual** are those of the visual, each moved; their levels stay, since
they count labels and not steps. -/
theorem rowsAt_mount (above : Path) (deeper : Nat) (visual : Visual) (level : Nat) :
    (visual.mount above deeper).rowsAt level = (visual.rowsAt level).map (Row.mount above) := by
  match visual with
  | .empty => rfl
  | .node path depth kind toggle active snippet groups =>
    rw [Visual.mount, Visual.rowsAt, Visual.rowsAt, List.map_cons, groupRows_mount]
    rfl
  | .fragment groups =>
    rw [Visual.mount, Visual.rowsAt, Visual.rowsAt, groupRows_mount]

/-- The rows of a mounted group are its rows, mounted. -/
theorem Group.rowsAt_mount (above : Path) (deeper : Nat) (group : Group) (level : Nat) :
    (group.mount above deeper).rowsAt level = (group.rowsAt level).map (Row.mount above) := by
  match group with
  | .mk path depth name body =>
    rw [Group.mount, Group.rowsAt, Group.rowsAt, List.map_cons]
    -- the row of the group moves with its path; its body is mounted on the same path
    match body with
    | .literal text => rfl
    | .empty => rfl
    | .children isOpen count items =>
      rw [Body.mount, Body.rowsAt, Body.rowsAt, itemRows_mount]
      rfl

/-- The same for groups one after the other. -/
theorem groupRows_mount (above : Path) (deeper : Nat) (groups : List Group) (level : Nat) :
    groupRows (mountGroups above deeper groups) level =
      (groupRows groups level).map (Row.mount above) := by
  match groups with
  | [] => rfl
  | group :: rest =>
    rw [mountGroups, groupRows, groupRows, List.map_append, Group.rowsAt_mount,
      groupRows_mount above deeper rest]

theorem itemRows_mount (above : Path) (deeper : Nat) (items : List Visual) (level : Nat) :
    itemRows (mountItems above deeper items) level =
      (itemRows items level).map (Row.mount above) := by
  match items with
  | [] => rfl
  | visual :: rest =>
    rw [mountItems, itemRows, itemRows, List.map_append, rowsAt_mount,
      itemRows_mount above deeper rest]

end

/-- The labels that can be opened or closed move with the visual. -/
theorem toggleKeys_mount (above : Path) (deeper : Nat) (visual : Visual) :
    (visual.mount above deeper).toggleKeys = visual.toggleKeys.map (·.under above) := by
  rw [toggleKeys_eq_rowsAt _ 0, toggleKeys_eq_rowsAt _ 0, rowsAt_mount]
  unfold toggleKeysOf
  rw [List.filter_map, List.map_map, List.map_map]
  rfl

/-! ### What a pass reads below a path -/

namespace DisplayRules

variable (rules : DisplayRules) (path : Path)

/-- The rules as they look from a path: as much less deep as the path is long.  The depth stays a
number of 32 bits; with the least of them everything starts closed. -/
def within : DisplayRules :=
  { rules with openDepth := max (-2 ^ 31) (rules.openDepth - path.length) }

/-- What starts open, starts open from there. -/
theorem startsOpen_within (rest : Path) :
    (rules.within path).startsOpen rest = rules.startsOpen (path ++ rest) := by
  unfold startsOpen within
  rw [List.length_append, decide_eq_decide]
  push_cast
  omega

/-- The rules below a path look for the same tags. -/
theorem tagKeys_within : (rules.within path).tagKeys = rules.tagKeys := rfl

theorem showsField_within : (rules.within path).showsField = rules.showsField := rfl

theorem isActive_within : (rules.within path).isActive = rules.isActive := rfl

theorem snippetOf_within : (rules.within path).snippetOf = rules.snippetOf := rfl

end DisplayRules

/-- The flags as they look from a path. -/
def Flags.within (flags : Flags) (path : Path) : Flags := fun key => flags (key.under path)

namespace ExpansionStore

variable (store : ExpansionStore) (path : Path)

/-- The entries at a path and below it, named from there. -/
def entriesWithin : List (LabelKey × LabelState) :=
  store.entries.toList.filterMap fun (key, state) =>
    (key.within? path).map fun inner => (inner, state)

/-- The store as it looks from a path: the entries at it and below it only, named from there. -/
def within : ExpansionStore := { store with entries := .ofList (store.entriesWithin path) }

/-- The entries of a store below a path are those of the mounted keys. -/
theorem mem_entriesWithin_iff {key : LabelKey} {state : LabelState} :
    (key, state) ∈ store.entriesWithin path ↔ store.entries[key.under path]? = some state := by
  rw [← Std.TreeMap.mem_toList_iff_getElem?_eq_some, entriesWithin, List.mem_filterMap]
  constructor
  · rintro ⟨⟨own, found⟩, hmem, hentry⟩
    obtain ⟨inner, hinner, heq⟩ := Option.map_eq_some_iff.1 hentry
    cases heq
    rwa [← LabelKey.within?_eq_some_iff.1 hinner]
  · intro hmem
    exact ⟨_, hmem, Option.map_eq_some_iff.2 ⟨key, LabelKey.within?_eq_some_iff.2 rfl, rfl⟩⟩

/-- Labels that differ still differ when they are named from a path. -/
theorem pairwise_entriesWithin :
    (store.entriesWithin path).Pairwise fun a b => ¬compare a.1 b.1 = .eq := by
  refine Std.TreeMap.distinct_keys_toList.filterMap _ ?_
  rintro ⟨own, state⟩ ⟨own', state'⟩ hne ⟨key, found⟩ hkey ⟨key', found'⟩ hkey'
  obtain ⟨inner, hinner, heq⟩ := Option.map_eq_some_iff.1 hkey
  obtain ⟨inner', hinner', heq'⟩ := Option.map_eq_some_iff.1 hkey'
  cases heq
  cases heq'
  rw [Std.LawfulEqOrd.compare_eq_iff_eq] at hne ⊢
  -- equal keys below the path would be equal keys in the whole store
  have hown : own = key.under path := LabelKey.within?_eq_some_iff.1 hinner
  have hown' : own' = key'.under path := LabelKey.within?_eq_some_iff.1 hinner'
  intro (hsame : key = key')
  exact hne (by rw [hown, hown', hsame])

/-- **The store restricted to a path** has for a label what the store has for it below the path. -/
theorem getElem?_within (key : LabelKey) :
    (store.within path).entries[key]? = store.entries[key.under path]? := by
  show (Std.TreeMap.ofList (store.entriesWithin path))[key]? = _
  cases hentry : store.entries[key.under path]? with
  | some state =>
    exact Std.TreeMap.getElem?_ofList_of_mem Std.ReflCmp.compare_self
      (store.pairwise_entriesWithin path) ((store.mem_entriesWithin_iff path).2 hentry)
  | none =>
    refine Std.TreeMap.getElem?_ofList_of_contains_eq_false ?_
    rw [← Bool.not_eq_true, List.contains_iff_mem]
    -- An entry for the label would be one of the store's, below the path.
    intro hmem
    obtain ⟨⟨own, state⟩, hin, rfl⟩ := List.mem_map.1 hmem
    rw [(store.mem_entriesWithin_iff path).1 hin] at hentry
    exact nomatch hentry

/-- The flags of a store are those of another one below a path. -/
def Restricts (inner store : ExpansionStore) (path : Path) : Prop :=
  ∀ role rest, inner.peek ⟨role, rest⟩ = store.peek ⟨role, path ++ rest⟩

/-- There is such a store for every path. -/
theorem restricts_within : (store.within path).Restricts store path := fun role rest =>
  congrArg (Option.map LabelState.isOpen) (store.getElem?_within path ⟨role, rest⟩)

variable {store path} {inner : ExpansionStore}

/-- **A pass reads the same from there.** -/
theorem Restricts.flags (h : inner.Restricts store path) (rules : DisplayRules) :
    inner.flags (rules.within path) = (store.flags rules).within path := by
  funext key
  show (inner.peek ⟨key.role, key.path⟩).getD _ = _
  rw [h, rules.startsOpen_within]
  rfl

/-- **Visits below a path** are visits of the store as it looks from there. -/
theorem Restricts.peek_visitAll (h : inner.Restricts store path) (rules : DisplayRules)
    (keys : List LabelKey) :
    (inner.visitAll (rules.within path) keys).Restricts
      (store.visitAll rules (keys.map (·.under path))) path := by
  intro role rest
  rw [ExpansionStore.peek_visitAll, ExpansionStore.peek_visitAll, h.flags, h]
  exact if_congr (List.mem_map_of_injective (LabelKey.under_injective path)).symm rfl rfl

/-- They touch no label elsewhere. -/
theorem peek_visitAll_elsewhere (rules : DisplayRules) (keys : List LabelKey) {key : LabelKey}
    (helsewhere : ¬path <+: key.path) :
    (store.visitAll rules (keys.map (·.under path))).peek key = store.peek key := by
  rw [peek_visitAll, if_neg]
  intro hkey
  obtain ⟨inner, -, rfl⟩ := List.mem_map.1 hkey
  exact helsewhere (List.prefix_append path inner.path)

end ExpansionStore

/-! ### A view does not depend on its place -/

section

variable {rules : DisplayRules} {flags : Flags} {above : Path} {deeper : Nat}

/-- A map looks the same below a path, provided its groups do. -/
theorem viewMap_mount {fields : List (String × Value)} {rest : Path} {depth : Nat}
    {groups groups' : (String → Value → Bool) → List Group}
    (hgroups : ∀ shown, groups' shown = mountGroups above deeper (groups shown)) :
    viewMap rules flags fields (above ++ rest) (deeper + depth) groups' =
      (viewMap (rules.within above) (flags.within above) fields rest depth groups).mount above
        deeper := by
  unfold viewMap
  rw [rules.tagKeys_within, rules.showsField_within, rules.isActive_within, rules.snippetOf_within]
  cases rules.tagKeys.tagOf fields with
  | none =>
    dsimp only
    rw [Visual.mount, hgroups]
  | some kind =>
    dsimp only
    -- The toggle is the same in both, so both look at their groups or neither does.
    rw [Visual.mount, hgroups, apply_ite (mountGroups above deeper)]
    rfl

mutual

/-- **A view does not depend on its place.** -/
theorem view_mount (value : Value) (rest : Path) (depth : Nat) :
    view rules flags value (above ++ rest) (deeper + depth) =
      (view (rules.within above) (flags.within above) value rest depth).mount above deeper := by
  -- the path above and the depth above pass through every call of the recursion
  cases value with
  | map fields =>
    rw [view, view]
    exact viewMap_mount fun shown => viewFields_mount fields shown rest (depth + 1)
  | list items =>
    rw [view, view, Visual.mount]
    exact congrArg Visual.fragment (viewElements_mount items rest 0 (depth + 1))
  | null | bool b | int n | float x | str s => rfl

/-- A body viewed below a path is the one viewed on its own, mounted there. -/
theorem viewBody_mount (value : Value) (rest : Path) (depth : Nat) :
    viewBody rules flags value (above ++ rest) (deeper + depth) =
      (viewBody (rules.within above) (flags.within above) value rest depth).mount above deeper := by
  have hown : flags.within above ⟨.group, rest⟩ = flags ⟨.group, above ++ rest⟩ := rfl
  cases value with
  | map fields =>
    rw [viewBody, viewBody, Body.mount, hown]
    -- A map in a group stands at the path of the group, two levels above its own groups.
    split
    · rw [mountItems, mountItems, ← viewMap_mount fun shown =>
        viewFields_mount fields shown rest (depth + 2)]
      rfl
    · rfl
  | list items =>
    rw [viewBody, viewBody, hown]
    split
    · rfl
    · rw [Body.mount]
      split
      · exact congrArg (Body.children _ _) (viewItems_mount items rest 0 (depth + 1))
      · rfl
  | null | bool b | int n | float x | str s => rfl

/-- The case of the fields of an object. -/
theorem viewFields_mount (fields : List (String × Value)) (shown : String → Value → Bool)
    (rest : Path) (depth : Nat) :
    viewFields rules flags fields shown (above ++ rest) (deeper + depth) =
      mountGroups above deeper
        (viewFields (rules.within above) (flags.within above) fields shown rest depth) := by
  match fields with
  | [] => rfl
  | (name, value) :: others =>
    rw [viewFields, viewFields]
    split
    · rw [mountGroups, Group.mount, Path.append_field,
        viewBody_mount value (rest.field name) depth,
        viewFields_mount others shown rest depth]
    · exact viewFields_mount others shown rest depth

theorem viewElements_mount (items : List Value) (rest : Path) (i depth : Nat) :
    viewElements rules flags items (above ++ rest) i (deeper + depth) =
      mountGroups above deeper
        (viewElements (rules.within above) (flags.within above) items rest i depth) := by
  match items with
  | [] => rfl
  | value :: others =>
    rw [viewElements, viewElements, mountGroups, Group.mount, Path.append_index,
      viewBody_mount value (rest.index i) depth,
      viewElements_mount others rest (i + 1) depth]

theorem viewItems_mount (items : List Value) (rest : Path) (i depth : Nat) :
    viewItems rules flags items (above ++ rest) i (deeper + depth) =
      mountItems above deeper
        (viewItems (rules.within above) (flags.within above) items rest i depth) := by
  match items with
  | [] => rfl
  | value :: others =>
    rw [viewItems, viewItems, mountItems, Path.append_index,
      view_mount value (rest.index i) depth,
      viewItems_mount others rest (i + 1) depth]

end

end

/-! ### Neither does rendering -/

section

variable {store inner : ExpansionStore} {path : Path} (h : inner.Restricts store path)
  (rules : DisplayRules) (value : Value) (depth : Nat)
include h

/-- What is rendered at a path is what is rendered at the root, moved there. -/
theorem render_fst_mount :
    (render rules value path depth store).1 =
      (render (rules.within path) value [] 0 inner).1.mount path depth := by
  have hview : view rules (store.flags rules) value (path ++ []) (depth + 0) = _ :=
    view_mount value [] 0
  rw [List.append_nil, ← h.flags] at hview
  rw [render_eq, render_eq]
  exact hview

/-- The labels that rendering visits are those below the path. -/
theorem render_snd_mount :
    (render rules value path depth store).2 = store.visitAll rules
      ((render (rules.within path) value [] 0 inner).1.toggleKeys.map (·.under path)) := by
  rw [← toggleKeys_mount path depth, ← render_fst_mount h, render_eq]

/-- The flags that rendering leaves below the path are those of the other store. -/
theorem render_snd_restricts :
    (render (rules.within path) value [] 0 inner).2.Restricts
      (render rules value path depth store).2 path := by
  rw [render_snd_mount h, render_eq]
  exact h.peek_visitAll rules _

end

/-- **Rendering does not depend on the place.** For every store and path there is a store with the
flags below the path, each at its label as it is named from there.  Whatever the value, the rules
and such a store, what is rendered at the path and a depth is what is rendered at the root with that
store, under rules as much less deep as the path is long, with the path before every path and the
depth added to every depth.  The flags below the path are afterwards those of the other store, and
all others what they were. -/
theorem render_position_independent (rules : DisplayRules) (value : Value) (path : Path)
    (depth : Nat) (store : ExpansionStore) :
    (store.within path).Restricts store path ∧
      ∀ inner : ExpansionStore,
        (∀ role rest, inner.peek ⟨role, rest⟩ = store.peek ⟨role, path ++ rest⟩) →
        (render rules value path depth store).1 =
            (render (rules.within path) value [] 0 inner).1.mount path depth ∧
          (∀ role rest, (render rules value path depth store).2.peek ⟨role, path ++ rest⟩ =
            (render (rules.within path) value [] 0 inner).2.peek ⟨role, rest⟩) ∧
          ∀ key : LabelKey, ¬path <+: key.path →
            (render rules value path depth store).2.peek key = store.peek key := by
  refine ⟨store.restricts_within path, fun inner h => ⟨render_fst_mount h rules value depth,
    fun role rest => (render_snd_restricts h rules value depth role rest).symm,
    fun key helsewhere => ?_⟩⟩
  rw [render_snd_mount h]
  exact ExpansionStore.peek_visitAll_elsewhere rules _ helsewhere

/-! ### A block in a field -/

/-- A label below the field `main` is open, and the root is closed. -/
def mainStore : ExpansionStore :=
  ((ExpansionStore.empty.visit ⟨.group, [.field "main", .field "body"]⟩ true).2.visit
    ⟨.node, []⟩ false).2

/-- Labels at paths of up to one step start open. -/
def mainRules : DisplayRules := { DisplayRules.standard with openDepth := 1 }

/-- Seen from the field `main` the block is a root, and starts open as it does in the field; its
body is open, since the store says so.  The label of the root outside stays closed. -/
theorem render_position_independent_main :
    let inner := render (mainRules.within [.field "main"]) sampleTree [] 0
      (mainStore.within [.field "main"])
    let outer := render mainRules sampleTree [.field "main"] 3 mainStore
    inner.1.toggleKeys =
        [⟨.node, []⟩, ⟨.group, [.field "body"]⟩, ⟨.group, [.field "body", .index 1, .index 0]⟩] ∧
      outer.1 = inner.1.mount [.field "main"] 3 ∧
      outer.2.peek ⟨.group, [.field "main", .field "body"]⟩ = some true ∧
      ¬[.field "main"] <+: ([] : Path) ∧ outer.2.peek ⟨.node, []⟩ = some false := by
  intro inner outer
  obtain ⟨hrestricts, hmount⟩ :=
    render_position_independent mainRules sampleTree [.field "main"] 3 mainStore
  obtain ⟨hvisual, hbelow, helsewhere⟩ := hmount _ hrestricts
  -- the flag of the root is elsewhere and keeps its value
  have hroot : ¬[.field "main"] <+: ([] : Path) := by simp
  refine ⟨?_, hvisual, (hbelow .group [.field "body"]).trans ?_, hroot,
    (helsewhere ⟨.node, []⟩ hroot).trans ?_⟩
  · unfold inner
    cbv
  · cbv
  · cbv

end TreeOutline
