import TreeOutline.Number.Binary64

namespace TreeOutline

/-!
# Tree values

The data a parser hands over: scalars, lists, and maps whose fields keep their order.

* `Value` — a value; a map is a list of named fields.
* `Value.put` — sets a field: a new name goes to the end, a known one keeps its place.
* `Value.WellFormed` — in every map of the value the field names are pairwise distinct.
* `mem_names_put`, `put_nodup` — setting fields keeps the names distinct.
-/

/-- A tree value.  Integers are those of 64 bits, signed or not; all other numbers are doubles. -/
inductive Value where
  | null
  | bool (b : Bool)
  | int (n : Int)
  | float (x : Binary64)
  | str (s : String)
  | list (items : List Value)
  | map (fields : List (String × Value))
deriving Repr, Inhabited

namespace Value

/-- Sets the field `name`.  A name that is present keeps its place and takes the new value. -/
def put (name : String) (value : Value) : List (String × Value) → List (String × Value)
  | [] => [(name, value)]
  | (n, v) :: rest => if n = name then (n, value) :: rest else (n, v) :: put name value rest

/-- The text of a string value. -/
def asString? : Value → Option String
  | .str s => some s
  | _ => none

/-- The number of a non-negative integer value. -/
def asNat? : Value → Option Nat
  | .int (.ofNat n) => some n
  | _ => none

/-- Whether the value is a list or a map. -/
def isStructural : Value → Bool
  | .list _ | .map _ => true
  | _ => false

/-! ### Distinct field names -/

mutual

/-- Every map in the value has pairwise distinct field names. -/
def WellFormed : Value → Prop
  | .list items => ItemsWellFormed items
  | .map fields => (fields.map Prod.fst).Nodup ∧ FieldsWellFormed fields
  | _ => True

/-- Every item is well formed. -/
def ItemsWellFormed : List Value → Prop
  | [] => True
  | item :: rest => item.WellFormed ∧ ItemsWellFormed rest

/-- Every field's value is well formed. -/
def FieldsWellFormed : List (String × Value) → Prop
  | [] => True
  | (_, value) :: rest => value.WellFormed ∧ FieldsWellFormed rest

end

/-- Setting a field adds its name and no other. -/
theorem mem_names_put {name n : String} {value : Value} {fields : List (String × Value)} :
    n ∈ (put name value fields).map Prod.fst ↔ n = name ∨ n ∈ fields.map Prod.fst := by
  induction fields with
  | nil => simp [put]
  | cons f rest ih =>
    obtain ⟨m, v⟩ := f
    by_cases h : m = name
    · subst h; simp [put]
    · simp only [put, h, if_false, List.map_cons, List.mem_cons, ih]
      exact or_left_comm

/-- Setting a field keeps the names distinct. -/
theorem put_nodup {name : String} {value : Value} {fields : List (String × Value)}
    (h : (fields.map Prod.fst).Nodup) : ((put name value fields).map Prod.fst).Nodup := by
  induction fields with
  | nil => simp [put]
  | cons f rest ih =>
    obtain ⟨m, v⟩ := f
    rw [List.map_cons, List.nodup_cons] at h
    by_cases hm : m = name
    · subst hm; simpa [put] using h
    · simp only [put, hm, if_false, List.map_cons, List.nodup_cons]
      exact ⟨fun hin => (mem_names_put.1 hin).elim hm h.1, ih h.2⟩

end Value

end TreeOutline
