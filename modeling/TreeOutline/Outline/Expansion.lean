import Std.Data.TreeMap
import TreeOutline.Tree.Path

namespace TreeOutline

/-!
# Expansion state

Which labels are open is remembered by key, so that it survives a rebuilt tree.

* `Role`, `LabelKey` — what identifies a label: a field that holds one node puts two labels at
  one path, and the role tells them apart.
* `ExpansionStore` — a flag and the last pass in which the label was shown, per key.
* `ExpansionStore.beginPass`, `visit`, `endPass` — one rendering pass: labels that are shown are
  visited, and the `stale` ones, which were not, are dropped at the end.
* `peek`, `toggle`, `setOpen`, `snapshot` — reading and changing flags between passes.
-/

/-- What kind of label a key belongs to. -/
inductive Role where
  /-- The label of a node: its kind. -/
  | node
  /-- The label of a field: its name. -/
  | group
deriving DecidableEq, Repr

namespace Role

/-- Nodes come before groups. -/
protected def compare : Role → Role → Ordering
  | .node, .node => .eq
  | .node, .group => .lt
  | .group, .node => .gt
  | .group, .group => .eq

instance : Ord Role := ⟨Role.compare⟩

instance : Std.TransOrd Role where
  eq_swap := by rintro (_ | _) (_ | _) <;> rfl
  isLE_trans := by rintro (_ | _) (_ | _) (_ | _) <;> simp [compare, Role.compare]

instance : Std.LawfulEqOrd Role where
  eq_of_compare := by rintro (_ | _) (_ | _) <;> simp [compare, Role.compare]

/-- The name of a role. -/
def text : Role → String
  | .node => "node"
  | .group => "group"

end Role

/-- What identifies a label. -/
structure LabelKey where
  role : Role
  path : Path
deriving DecidableEq, Repr

namespace LabelKey

/-- The order of keys: by role, then by path. -/
protected def compare (a b : LabelKey) : Ordering :=
  compareLex (compareOn LabelKey.role) (compareOn LabelKey.path) a b

instance : Ord LabelKey := ⟨LabelKey.compare⟩

/-- Keys are ordered by role first, then by path. -/
theorem compare_eq (a b : LabelKey) :
    compare a b = (compare a.role b.role).then (compare a.path b.path) := rfl

instance : Std.TransOrd LabelKey :=
  inferInstanceAs (Std.TransCmp (compareLex (compareOn LabelKey.role) (compareOn LabelKey.path)))

instance : Std.LawfulEqOrd LabelKey where
  eq_of_compare {a b} h := by
    obtain ⟨r, p⟩ := a
    obtain ⟨s, q⟩ := b
    rw [compare_eq, Ordering.then_eq_eq] at h
    obtain rfl : r = s := Std.LawfulEqOrd.eq_of_compare h.1
    obtain rfl : p = q := Std.LawfulEqOrd.eq_of_compare h.2
    rfl

end LabelKey

/-- What the store knows of a label. -/
structure LabelState where
  isOpen : Bool
  /-- The pass in which the label was last shown. -/
  seen : Nat
deriving DecidableEq, Repr

/-- The flags of all labels of the last pass. -/
structure ExpansionStore where
  entries : Std.TreeMap LabelKey LabelState
  /-- The number of passes begun so far. -/
  pass : Nat

namespace ExpansionStore

/-- No flags and no pass yet. -/
def empty : ExpansionStore := ⟨∅, 0⟩

instance : Inhabited ExpansionStore := ⟨empty⟩

/-- The flag of a label. -/
def peek (store : ExpansionStore) (key : LabelKey) : Option Bool :=
  store.entries[key]?.map LabelState.isOpen

/-- Begins a pass. -/
def beginPass (store : ExpansionStore) : ExpansionStore := { store with pass := store.pass + 1 }

/-- The flag of a label that is being shown.  A label without one gets `seed`. -/
def visit (store : ExpansionStore) (key : LabelKey) (seed : Bool) : Bool × ExpansionStore :=
  let isOpen := (store.peek key).getD seed
  (isOpen, { store with entries := store.entries.insert key ⟨isOpen, store.pass⟩ })

/-- Sets the flag of a label that has one; says whether it does. -/
def setOpen (store : ExpansionStore) (key : LabelKey) (isOpen : Bool) : Bool × ExpansionStore :=
  match store.entries[key]? with
  | some state => (true, { store with entries := store.entries.insert key { state with isOpen } })
  | none => (false, store)

/-- Flips the flag of a label that has one; the new flag. -/
def toggle (store : ExpansionStore) (key : LabelKey) : Option Bool × ExpansionStore :=
  match store.peek key with
  | some isOpen => (some (!isOpen), (store.setOpen key (!isOpen)).2)
  | none => (none, store)

/-- The labels that were not visited since the pass began. -/
def stale (store : ExpansionStore) : List LabelKey :=
  (store.entries.toList.filter fun (_, state) => state.seen != store.pass).map Prod.fst

/-- Ends a pass: labels that were not visited since it began are dropped. -/
def endPass (store : ExpansionStore) : ExpansionStore :=
  { store with entries := store.entries.filter fun _ state => state.seen == store.pass }

/-- The number of labels that have a flag. -/
def size (store : ExpansionStore) : Nat := store.entries.size

/-- All keys with their flags, in the order of keys. -/
def snapshot (store : ExpansionStore) : List (LabelKey × Bool) :=
  store.entries.toList.map fun (key, state) => (key, state.isOpen)

/-! ### What each operation does to the flags -/

@[simp] theorem peek_empty (key : LabelKey) : empty.peek key = none := by
  simp [empty, peek]

@[simp] theorem peek_beginPass (store : ExpansionStore) (key : LabelKey) :
    store.beginPass.peek key = store.peek key := rfl

@[simp] theorem visit_fst (store : ExpansionStore) (key : LabelKey) (seed : Bool) :
    (store.visit key seed).1 = (store.peek key).getD seed := rfl

@[simp] theorem pass_visit (store : ExpansionStore) (key : LabelKey) (seed : Bool) :
    (store.visit key seed).2.pass = store.pass := rfl

/-- What is stored after a visit: the answer under the visited key, and as before elsewhere. -/
theorem peek_visit (store : ExpansionStore) (key other : LabelKey) (seed : Bool) :
    (store.visit key seed).2.peek other =
      if key = other then some ((store.peek key).getD seed) else store.peek other := by
  simp only [visit, peek, Std.TreeMap.getElem?_insert, Std.LawfulEqOrd.compare_eq_iff_eq]
  split <;> simp

end ExpansionStore

end TreeOutline
