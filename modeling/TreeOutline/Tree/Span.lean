import TreeOutline.Text.Units
import TreeOutline.Tree.Shape

namespace TreeOutline

/-!
# Source spans

Nodes may say where they stand in the text they were parsed from.

* `Span` — a range of UTF-16 offsets, its end excluded.
* `nodeOffsets` — the offsets a map carries; `nodeSnippet` — the text it stands for.
* `Value.spansOf` — the spans of all nodes of a kind, parents before their children.
-/

/-- A range of UTF-16 offsets. -/
structure Span where
  first : Nat
  last : Nat
deriving DecidableEq, Repr

namespace Span

/-- Whether an offset lies in the range; the end does not. -/
def contains (span : Span) (offset : Nat) : Bool := span.first ≤ offset && offset < span.last

end Span

/-- The two offsets of a map, each where it is a non-negative integer. -/
def nodeOffsets (fields : List (String × Value)) : Option Nat × Option Nat :=
  ((fields.lookup "start").bind Value.asNat?, (fields.lookup "end").bind Value.asNat?)

/-- The span of a map that has both offsets in order. -/
def nodeSpan? (fields : List (String × Value)) : Option Span :=
  match nodeOffsets fields with
  | (some first, some last) => if first ≤ last then some ⟨first, last⟩ else none
  | _ => none

/-- The text a map stands for. -/
def nodeSnippet (source : List Char) (fields : List (String × Value)) : Option (List Char) :=
  snippet source (nodeOffsets fields).1 (nodeOffsets fields).2

namespace Value

mutual

/-- The spans of all nodes of the kind, parents before their children.  A node without a span is
passed over, its children are not. -/
def spansOf (tags : TagKeys) (kind : String) : Value → List Span
  | .map fields =>
    (if tags.tagOf fields = some kind then (nodeSpan? fields).toList else []) ++
      fieldSpans tags kind fields
  | .list items => itemSpans tags kind items
  | _ => []

/-- The spans in the items of a list. -/
def itemSpans (tags : TagKeys) (kind : String) : List Value → List Span
  | [] => []
  | item :: rest => item.spansOf tags kind ++ itemSpans tags kind rest

/-- The spans in the fields of a map. -/
def fieldSpans (tags : TagKeys) (kind : String) : List (String × Value) → List Span
  | [] => []
  | (_, value) :: rest => value.spansOf tags kind ++ fieldSpans tags kind rest

end

end Value

end TreeOutline
