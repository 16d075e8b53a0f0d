namespace TreeOutline

/-!
# Ranges of characters

* `inRanges` — whether a character lies in one of the ranges of a table.
-/

/-- Whether a character lies in one of the ranges. They include both ends and ascend, so the first
that ends at the character or after it decides. -/
def inRanges (ranges : List (Nat × Nat)) (c : Char) : Bool :=
  match ranges.find? fun range => c.toNat ≤ range.2 with
  | some (first, _) => first ≤ c.toNat
  | none => false

end TreeOutline
