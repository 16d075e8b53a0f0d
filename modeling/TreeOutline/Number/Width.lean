namespace TreeOutline

/-!
# Integers of a fixed width

* `IntRange` — the integers from a least to a greatest one; `IntRange.holds` — whether an integer
  is one of them.
* `IntRange.signed32`, `IntRange.signed64`, `IntRange.unsigned64` — those that fit into a number of
  bits, with and without a sign.
-/

/-- The integers from a least to a greatest one. -/
structure IntRange where
  least : Int
  greatest : Int
deriving DecidableEq, Repr

namespace IntRange

/-- Whether an integer lies in the range. -/
def holds (range : IntRange) (n : Int) : Bool := range.least ≤ n && n ≤ range.greatest

/-- Integers of 32 bits with a sign. -/
def signed32 : IntRange := ⟨-0x80000000, 0x7FFFFFFF⟩

/-- Integers of 64 bits with a sign. -/
def signed64 : IntRange := ⟨-0x8000000000000000, 0x7FFFFFFFFFFFFFFF⟩

/-- Integers of 64 bits without a sign. -/
def unsigned64 : IntRange := ⟨0, 0xFFFFFFFFFFFFFFFF⟩

@[simp] theorem holds_eq_true_iff (range : IntRange) (n : Int) :
    range.holds n = true ↔ range.least ≤ n ∧ n ≤ range.greatest := by
  simp [holds]

end IntRange

end TreeOutline
