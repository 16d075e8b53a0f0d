import TreeOutline.Outline.Rules
import TreeOutline.Outline.Visual
import TreeOutline.Tree.Span
import TreeOutline.Value.Json.Writer

namespace TreeOutline

/-!
# Rendering a tree

One pass over a tree with the expansion store in hand: a label that is shown looks its flag up,
and gets one from the rules when it has none.

* `render` — one value at a path: a node has a label, a plain map or list only the groups of its
  fields, a scalar nothing.
* `renderGroup` — one field of the value at a path.
* `renderRoot` — a whole tree as one pass, after which labels that were not shown are forgotten.
* `literal` — the text of a scalar.
-/

/-- The text of a scalar, and the word for a field that is absent. -/
def literal : Option Value → String
  | none => "undefined"
  | some value => Json.write value

/-- The flag of a label at `path` that is being shown. -/
def labelOpen (rules : DisplayRules) (role : Role) (path : Path) (store : ExpansionStore) :
    Bool × ExpansionStore :=
  store.visit ⟨role, path⟩ (rules.startsOpen path)

/-- The text a node stands for, when the text of the tree is known. -/
def DisplayRules.snippetOf (rules : DisplayRules) (fields : List (String × Value)) :
    Option String :=
  rules.sourceText.bind fun source => (nodeSnippet source.toList fields).map String.ofList

/-- A map at `path`, given how to render the groups of those fields that are shown.  A node that
shows no field cannot be opened, and a closed one renders no groups. -/
def renderMap (rules : DisplayRules) (fields : List (String × Value)) (path : Path) (depth : Nat)
    (groups : (String → Value → Bool) → ExpansionStore → List Group × ExpansionStore)
    (store : ExpansionStore) : Visual × ExpansionStore :=
  match rules.tagKeys.tagOf fields with
  | none =>
    let (groups, store) := groups (fun _ _ => true) store
    -- without a tag nothing is a node here: all fields are shown, and no flag is asked for
    (.fragment groups, store)
  | some kind =>
    let label := Visual.node path depth kind
    if fields.any fun (name, value) => rules.showsField name value then
      match labelOpen rules .node path store with
      | (true, store) =>
        let (groups, store) := groups rules.showsField store
        (label .opened (rules.isActive kind) (rules.snippetOf fields) groups, store)
      | (false, store) => (label .closed (rules.isActive kind) (rules.snippetOf fields) [], store)
    -- nothing to open, so the store never hears of this key
    else (label .static (rules.isActive kind) (rules.snippetOf fields) [], store)

mutual

/-- One value at `path`. -/
def render (rules : DisplayRules) :
    Value → Path → (depth : Nat) → ExpansionStore → Visual × ExpansionStore
  | .map fields, path, depth, store =>
    renderMap rules fields path depth
      (fun shown store => renderFields rules fields shown path (depth + 1) store) store
  | .list items, path, depth, store =>
    let (groups, store) := renderElements rules items path 0 (depth + 1) store
    (.fragment groups, store)
  | _, _, _, store => (.empty, store)

/-- What a field with this value shows under its name, for the group at `own`.  A map is shown at
the path of its group. -/
def renderBody (rules : DisplayRules) :
    Value → (own : Path) → (depth : Nat) → ExpansionStore → Body × ExpansionStore
  | .list [], _, _, store => (.empty, store)
  | .list (item :: items), own, depth, store =>
    let count := items.length + 1
    match labelOpen rules .group own store with
    | (true, store) =>
      -- the first item on its own, so that the recursion is on the list
      let (first, store) := render rules item (own.index 0) (depth + 1) store
      let (others, store) := renderItems rules items own 1 (depth + 1) store
      (.children true count (first :: others), store)
    | (false, store) => (.children false count [], store)
  | .map fields, own, depth, store =>
    match labelOpen rules .group own store with
    | (true, store) =>
      let (visual, store) := renderMap rules fields own (depth + 1)
        (fun shown store => renderFields rules fields shown own (depth + 2) store) store
      (.children true 1 [visual], store)
    | (false, store) => (.children false 1 [], store)
  | scalar, _, _, store => (.literal (literal (some scalar)), store)

/-- The groups of the fields that are shown. -/
def renderFields (rules : DisplayRules) :
    List (String × Value) → (shown : String → Value → Bool) → Path → (depth : Nat) →
      ExpansionStore → List Group × ExpansionStore
  | [], _, _, _, store => ([], store)
  | (name, value) :: rest, shown, path, depth, store =>
    if shown name value then
      let (body, store) := renderBody rules value (path.field name) depth store
      let (groups, store) := renderFields rules rest shown path depth store
      (.mk (path.field name) depth name body :: groups, store)
    else renderFields rules rest shown path depth store

/-- The groups of the items of a list that stands in place of a node, from position `i` on. -/
def renderElements (rules : DisplayRules) :
    List Value → Path → (i depth : Nat) → ExpansionStore → List Group × ExpansionStore
  | [], _, _, _, store => ([], store)
  | value :: rest, path, i, depth, store =>
    let (body, store) := renderBody rules value (path.index i) depth store
    let (groups, store) := renderElements rules rest path (i + 1) depth store
    (.mk (path.index i) depth (toString i) body :: groups, store)

/-- The items of the group at `own` from position `i` on. -/
def renderItems (rules : DisplayRules) :
    List Value → (own : Path) → (i depth : Nat) → ExpansionStore → List Visual × ExpansionStore
  | [], _, _, _, store => ([], store)
  | value :: rest, own, i, depth, store =>
    let (visual, store) := render rules value (own.index i) depth store
    let (visuals, store) := renderItems rules rest own (i + 1) depth store
    (visual :: visuals, store)

end

/-- The field `name` of the value at `path`; `none` stands for an absent field. -/
def renderGroup (rules : DisplayRules) (name : String) (value : Option Value) (path : Path)
    (depth : Nat) (store : ExpansionStore) : Group × ExpansionStore :=
  let own := path.field name
  match value with
  | none => (.mk own depth name (.literal (literal none)), store)
  | some value =>
    let (body, store) := renderBody rules value own depth store
    (.mk own depth name body, store)

/-- A whole tree, or nothing when there is none, as one pass over the store. -/
def renderRoot (rules : DisplayRules) (tree : Option Value) (store : ExpansionStore) :
    Visual × ExpansionStore :=
  let begun := store.beginPass
  let (visual, store) := match tree with
    | some value => render rules value [] 0 begun
    | none => (.empty, begun)
  (visual, store.endPass)

end TreeOutline
