import Std.Data.TreeMap

namespace TreeOutline

/-!
# Paths

A path says where in a tree a label stands, step by step from the root, and stays the same when
the tree is read again.

* `Step` — a field name or a position; `Path` — the steps from the root.
* `Path.key` — the steps with points between them.
* `Path.parent?`, `Path.startsWith` — the path one step up; whether a path lies at or below
  another.
* the order of paths — step by step, fields before positions, a path before its extensions.
-/

/-- One step down into a value. -/
inductive Step where
  | field (name : String)
  | index (i : Nat)
deriving DecidableEq, Repr

namespace Step

/-- The step as text. -/
def text : Step → String
  | .field name => name
  | .index i => toString i

/-- Fields come before positions; names are ordered by their characters, positions by number. -/
protected def compare : Step → Step → Ordering
  | .field a, .field b => compare a b
  | .field _, .index _ => .lt
  | .index _, .field _ => .gt
  | .index a, .index b => compare a b

instance : Ord Step := ⟨Step.compare⟩

@[simp] theorem compare_field_field (a b : String) :
    compare (Step.field a) (Step.field b) = compare a b := rfl

@[simp] theorem compare_field_index (a : String) (i : Nat) :
    compare (Step.field a) (Step.index i) = .lt := rfl

@[simp] theorem compare_index_field (i : Nat) (a : String) :
    compare (Step.index i) (Step.field a) = .gt := rfl

@[simp] theorem compare_index_index (i j : Nat) :
    compare (Step.index i) (Step.index j) = compare i j := rfl

instance : Std.OrientedOrd Step where
  eq_swap := by
    rintro (a | i) (b | j)
    · exact Std.OrientedOrd.eq_swap (α := String)
    · rfl
    · rfl
    · exact Std.OrientedOrd.eq_swap (α := Nat)

instance : Std.TransOrd Step where
  isLE_trans := by
    rintro (a | i) (b | j) (c | k) <;> simp
    · exact Std.TransOrd.isLE_trans
    · exact Std.TransOrd.isLE_trans

instance : Std.LawfulEqOrd Step where
  eq_of_compare := by
    rintro (a | i) (b | j) <;> simp

end Step

/-- The steps from the root of a tree. -/
abbrev Path := List Step

namespace Path

/-- The steps with points between them; the root's is empty. -/
def key (path : Path) : String := ".".intercalate (path.map Step.text)

/-- The path one step down into the field `name`. -/
def field (path : Path) (name : String) : Path := path ++ [.field name]

/-- The path one step down to the position `i`. -/
def index (path : Path) (i : Nat) : Path := path ++ [.index i]

/-- The path one step up; the root has none. -/
def parent? (path : Path) : Option Path := if path.isEmpty then none else some path.dropLast

/-- Whether `path` is `other` or lies below it. -/
def startsWith (path other : Path) : Bool := other.isPrefixOf path

@[simp] theorem length_field (path : Path) (name : String) :
    (path.field name).length = path.length + 1 := by simp [field]

@[simp] theorem length_index (path : Path) (i : Nat) :
    (path.index i).length = path.length + 1 := by simp [index]

@[simp] theorem parent?_field (path : Path) (name : String) :
    (path.field name).parent? = some path := by simp [field, parent?]

@[simp] theorem parent?_index (path : Path) (i : Nat) :
    (path.index i).parent? = some path := by simp [index, parent?]

/-- A path starts with another where that is a front part of it. -/
theorem startsWith_iff {path other : Path} : path.startsWith other = true ↔ other <+: path :=
  List.isPrefixOf_iff_prefix

end Path

end TreeOutline
