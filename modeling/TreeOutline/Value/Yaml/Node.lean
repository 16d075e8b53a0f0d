import TreeOutline.Value.Yaml.Lexer

namespace TreeOutline

/-!
# The nodes of a YAML document

* `Yaml.Node` — a document's content: scalars, lists, maps, and aliases of anchored nodes.
* `Yaml.Node.targets` — the nodes that the anchors' numbers stand for.
* `Yaml.document?` — the node of the only document of a text; `none` inside for an empty text.
-/

namespace Yaml

/-- What stands in front of a node: the number of its anchor, and its tag. -/
structure Properties where
  anchor : Option Nat
  tag : Option String
deriving DecidableEq, Repr

/-- No anchor and no tag. -/
def Properties.none : Properties := ⟨.none, .none⟩

/-- A node of a document. -/
inductive Node where
  | alias (target : Nat)
  | scalar (properties : Properties) (isPlain : Bool) (text : String)
  | list (properties : Properties) (items : List Node)
  | map (properties : Properties) (entries : List (Node × Node))
deriving Repr, Inhabited

namespace Node

/-- A node that is not written out. -/
def blank (properties : Properties) : Node := .scalar properties true ""

mutual

/-- The number of marks and texts that the node consists of; a list or map has a beginning and an
end. -/
def size : Node → Nat
  | .alias _ => 1
  | .scalar .. => 1
  | .list _ items => 2 + itemsSize items
  | .map _ entries => 2 + entriesSize entries

/-- The size of the items of a list. -/
def itemsSize : List Node → Nat
  | [] => 0
  | item :: rest => item.size + itemsSize rest

/-- The size of the entries of a map. -/
def entriesSize : List (Node × Node) → Nat
  | [] => 0
  | (key, value) :: rest => key.size + value.size + entriesSize rest

end

/-- A node under the number of its anchor. -/
def numbered (properties : Properties) (node : Node) : List (Nat × Node) :=
  match properties.anchor with
  | some number => [(number, node)]
  | none => []

mutual

/-- The anchored nodes in the order in which they begin. -/
def targets : Node → List (Nat × Node)
  | .alias _ => []
  | .scalar properties isPlain text => numbered properties (.scalar properties isPlain text)
  | .list properties items => numbered properties (.list properties items) ++ itemsTargets items
  | .map properties entries =>
    numbered properties (.map properties entries) ++ entriesTargets entries

/-- The anchored nodes among the items of a list. -/
def itemsTargets : List Node → List (Nat × Node)
  | [] => []
  | item :: rest => item.targets ++ itemsTargets rest

/-- The anchored nodes among the entries of a map. -/
def entriesTargets : List (Node × Node) → List (Nat × Node)
  | [] => []
  | (key, value) :: rest => key.targets ++ value.targets ++ entriesTargets rest

end

end Node

/-! ### From tokens to nodes -/

/-- The tokens that are left, what the handles of tags stand for, and the numbers of the anchors'
names. -/
structure Parser where
  tokens : List Token
  handles : List (String × String)
  anchors : List (String × Nat)

namespace Parser

/-- The handles that need no declaration. -/
def standardHandles : List (String × String) := [("!", "!"), ("!!", "tag:yaml.org,2002:")]

/-- The parser behind some tokens. -/
def behind (s : Parser) (rest : List Token) : Parser := { s with tokens := rest }

/-- Whether one of some tokens is next. -/
def sees (s : Parser) (tokens : List Token) : Bool := s.tokens.head?.any (· ∈ tokens)

/-- Gives a name the number of names known so far.  So a name that is used again takes a number
that the next new name gets too. -/
def register (s : Parser) (name : String) : Nat × Parser :=
  let number := s.anchors.length
  (number, { s with anchors := (name, number) :: s.anchors.filter (·.1 ≠ name) })

/-- The full tag that a handle and a suffix give. -/
def resolveTag? (s : Parser) (handle suffix : String) : Option String :=
  if handle = "" then some suffix else (s.handles.lookup handle).map (· ++ suffix)

/-- The anchor and the tag in front of a node, in either order. -/
def properties? (s : Parser) : Option (Properties × Parser) :=
  match s.tokens with
  | .anchor name :: .tag handle suffix :: rest | .tag handle suffix :: .anchor name :: rest => do
    let (number, s) := s.register name
    let tag ← s.resolveTag? handle suffix
    some (⟨number, tag⟩, s.behind rest)
  | .anchor name :: rest =>
    let (number, s) := s.register name
    some (⟨number, none⟩, s.behind rest)
  | .tag handle suffix :: rest => do
    let tag ← s.resolveTag? handle suffix
    some (⟨none, tag⟩, s.behind rest)
  | _ => some (.none, s)

mutual

/-- A node.  Blocks may begin only where `block` is set, and items of a list without a block of
their own only where `bare` is. -/
def node? (block bare : Bool) : (fuel : Nat) → Parser → Option (Node × Parser)
  | 0, _ => none
  | fuel + 1, s =>
    match s.tokens with
    | .alias name :: rest =>
      (s.anchors.lookup name).map fun number => (.alias number, s.behind rest)
    | _ => do
      let (properties, s) ← s.properties?
      match s.tokens, block with
      | .scalar isPlain text :: rest, _ => some (.scalar properties isPlain text, s.behind rest)
      | .flowListStart :: rest, _ => do
        let (items, s) ← flowItems? true fuel (s.behind rest)
        some (.list properties items, s)
      | .flowMapStart :: rest, _ => do
        let (entries, s) ← flowEntries? true fuel (s.behind rest)
        some (.map properties entries, s)
      | .blockListStart :: rest, true => do
        let (items, s) ← blockItems? fuel (s.behind rest)
        some (.list properties items, s)
      | .blockMapStart :: rest, true => do
        let (entries, s) ← blockEntries? fuel (s.behind rest)
        some (.map properties entries, s)
      | tokens, _ =>
        -- a list may stand at the indentation of the key that it belongs to
        if bare ∧ tokens.head? = some .blockEntry then do
          let (items, s) ← bareItems? fuel s
          some (.list properties items, s)
        -- a tag or an anchor with nothing behind it is a node, an empty one
        else if properties = .none then none
        else some (.blank properties, s)

/-- A node, or nothing in front of one of some tokens. -/
def nodeOr? (enders : List Token) (block bare : Bool) : (fuel : Nat) → Parser →
    Option (Node × Parser)
  | 0, _ => none
  | fuel + 1, s =>
    if s.sees enders then some (.blank .none, s) else node? block bare fuel s

/-- The items of a block. -/
def blockItems? : (fuel : Nat) → Parser → Option (List Node × Parser)
  | 0, _ => none
  | fuel + 1, s =>
    match s.tokens with
    | .blockEntry :: rest => do
      let (item, s) ← nodeOr? [.blockEntry, .blockEnd] true false fuel (s.behind rest)
      let (items, s) ← blockItems? fuel s
      some (item :: items, s)
    | .blockEnd :: rest => some ([], s.behind rest)
    | _ => none

/-- The items of a list that stands in the block of the map around it. -/
def bareItems? : (fuel : Nat) → Parser → Option (List Node × Parser)
  | 0, _ => none
  | fuel + 1, s =>
    match s.tokens with
    | .blockEntry :: rest => do
      let (item, s) ←
        nodeOr? [.blockEntry, .key, .value, .blockEnd] true false fuel (s.behind rest)
      let (items, s) ← bareItems? fuel s
      some (item :: items, s)
    | _ => some ([], s)

/-- The entries of a block. -/
def blockEntries? : (fuel : Nat) → Parser → Option (List (Node × Node) × Parser)
  | 0, _ => none
  | fuel + 1, s =>
    let enders : List Token := [.key, .value, .blockEnd]
    match s.tokens with
    | .key :: rest => do
      let (key, s) ← nodeOr? enders true true fuel (s.behind rest)
      let (value, s) ← match s.tokens with
        | .value :: rest => nodeOr? enders true true fuel (s.behind rest)
        | _ => some (.blank .none, s)
      let (entries, s) ← blockEntries? fuel s
      some ((key, value) :: entries, s)
    | .blockEnd :: rest => some ([], s.behind rest)
    | _ => none

/-- The items of a flow list, from its start or from the end of an item on. -/
def flowItems? (first : Bool) : (fuel : Nat) → Parser → Option (List Node × Parser)
  | 0, _ => none
  | fuel + 1, s => do
    let s ← if first ∨ s.sees [.flowListEnd] then some s else
      match s.tokens with
      | .flowEntry :: rest => some (s.behind rest)
      | _ => none
    match s.tokens with
    | .flowListEnd :: rest => some ([], s.behind rest)
    -- a pair without braces is an item of its own
    | .key :: rest => do
      let (entry, s) ← flowPair? fuel (s.behind rest)
      let (items, s) ← flowItems? false fuel s
      some (.map .none [entry] :: items, s)
    | _ => do
      let (item, s) ← node? false false fuel s
      let (items, s) ← flowItems? false fuel s
      some (item :: items, s)

/-- The single entry of a map that is an item of a flow list.  Where the key is left out, the token
in its place is dropped. -/
def flowPair? : (fuel : Nat) → Parser → Option ((Node × Node) × Parser)
  | 0, _ => none
  | fuel + 1, s => do
    let (key, s) ←
      if s.sees [.value, .flowEntry, .flowListEnd] then
        some (.blank .none, s.behind (s.tokens.drop 1))
      else node? false false fuel s
    let (value, s) ← match s.tokens with
      | .value :: rest => nodeOr? [.flowEntry, .flowListEnd] false false fuel (s.behind rest)
      | _ => some (.blank .none, s)
    some ((key, value), s)

/-- The entries of a flow map, from its start or from the end of an entry on. -/
def flowEntries? (first : Bool) : (fuel : Nat) → Parser → Option (List (Node × Node) × Parser)
  | 0, _ => none
  | fuel + 1, s => do
    let s ← if first ∨ s.sees [.flowMapEnd] then some s else
      match s.tokens with
      | .flowEntry :: rest => some (s.behind rest)
      | _ => none
    let ((key, value), s) ← match s.tokens with
      | .flowMapEnd :: rest => return ([], s.behind rest)
      | .key :: rest => do
        let (key, s) ←
          nodeOr? [.value, .flowEntry, .flowMapEnd] false false fuel (s.behind rest)
        let (value, s) ← match s.tokens with
          | .value :: rest => nodeOr? [.flowEntry, .flowMapEnd] false false fuel (s.behind rest)
          -- a key without a colon has the empty value
          | _ => some (.blank .none, s)
        some ((key, value), s)
      | _ => do
        let (key, s) ← node? false false fuel s
        some ((key, Node.blank .none), s)
    let (entries, s) ← flowEntries? false fuel s
    some ((key, value) :: entries, s)

end

/-! ### Documents -/

/-- The directives in front of a document: at most one version, which has to be known, and
declarations of different handles. -/
def directives? : (version : Bool) → (handles : List (String × String)) → List Token →
    Option (List (String × String) × List Token)
  | version, handles, .version major minor :: rest =>
    if version ∨ major ≠ 1 ∨ (minor ≠ 1 ∧ minor ≠ 2) then none else directives? true handles rest
  | version, handles, .tagHandle handle expansion :: rest =>
    if handles.any (·.1 = handle) then none
    else directives? version (handles ++ [(handle, expansion)]) rest
  | _, handles, tokens => some (handles ++ standardHandles, tokens)

/-- The content of a document behind its start. -/
def content? (fuel : Nat) (s : Parser) : Option (Node × Parser) :=
  match s.tokens with
  | [] => some (.blank .none, s)
  | .version .. :: _ | .tagHandle .. :: _ | .documentStart :: _ | .documentEnd :: _ =>
    some (.blank .none, s)
  | _ => node? true false fuel s

/-- The first document of some tokens: an explicit one, or one without directives and start. -/
def firstDocument? (tokens : List Token) : Option (Node × Parser) :=
  let fuel := 4 * tokens.length + 4
  let isExplicit := tokens.head?.any fun
    | .version .. | .tagHandle .. | .documentStart => true
    | _ => false
  if isExplicit then do
    let (handles, rest) ← directives? false [] tokens
    match rest with
    | .documentStart :: rest => content? fuel ⟨rest, handles, []⟩
    | _ => none
  else node? true false fuel ⟨tokens, standardHandles, []⟩

end Parser

/-- The node of the only document of a text; an empty text has none. -/
def document? (text : String) : Option (Option Node) := do
  let tokens ← tokens? text
  match tokens.toList with
  | [] => some none
  | tokens => do
    let (node, s) ← Parser.firstDocument? tokens
    if s.tokens.all (· = .documentEnd) then some (some node) else none

end Yaml

end TreeOutline
