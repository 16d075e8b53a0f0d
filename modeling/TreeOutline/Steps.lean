namespace TreeOutline

/-!
# Steps that can fail

* `exists_of_bind_eq_ok`, `exists_of_map_eq_ok`, `mapError_eq_ok` — what is known of the steps of a
  computation that has succeeded.
-/

/-- Where a computation succeeds, so does each of its two steps. -/
theorem exists_of_bind_eq_ok {ε α β : Type} {first : Except ε α} {next : α → Except ε β}
    {result : β} (h : first >>= next = .ok result) :
    ∃ value, first = .ok value ∧ next value = .ok result := by
  cases first with
  | error problem => cases h
  | ok value => exact ⟨value, rfl, h⟩

/-- Where what is made of an answer is a result, so is the answer. -/
theorem exists_of_map_eq_ok {ε α β : Type} {answer : Except ε α} {make : α → β} {result : β}
    (h : answer.map make = .ok result) : ∃ value, answer = .ok value ∧ make value = result := by
  cases answer with
  | error problem => cases h
  | ok value => exact ⟨value, rfl, Except.ok.inj h⟩

/-- Other words for a problem change no result. -/
theorem mapError_eq_ok {ε ε' α : Type} {answer : Except ε α} {reword : ε → ε'} {result : α} :
    answer.mapError reword = .ok result ↔ answer = .ok result := by
  cases answer with
  | error problem => exact iff_of_false (fun h => by cases h) (fun h => by cases h)
  | ok value =>
    constructor <;> intro h <;> exact congrArg Except.ok (Except.ok.inj h)

end TreeOutline
