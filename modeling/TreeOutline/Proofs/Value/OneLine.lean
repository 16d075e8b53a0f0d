import TreeOutline.Outline.Render

namespace TreeOutline

/-!
# The text of a value is one line

Whatever strings are in a value, its text has no line end in it.

* `newline_not_mem_toDigits`, `Decimal.newline_not_mem_jsonText` — numbers are digits, signs, a
  point and an exponent.
* `Json.newline_not_mem_escaped`, `Json.newline_not_mem_quoted` — inside quotes a line end is
  escaped.
* `Json.newline_not_mem_textOf` — so it is in every value, by induction over it.
* `newline_not_mem_literal` — and in what a field shows of a scalar.
-/

/-! ### Numbers -/

theorem newline_not_mem_toDigits (n : Nat) : '\n' ∉ Nat.toDigits 10 n := by
  intro hmem
  have hdigit : ('\n').isDigit = true := Nat.isDigit_of_mem_toDigits (by decide) (by decide) hmem
  exact absurd hdigit (by decide)

/-- A natural number is written in digits. -/
theorem newline_not_mem_repr (n : Nat) : '\n' ∉ (toString n).toList := by
  rw [Nat.toString_eq_repr, Nat.toList_repr]
  exact newline_not_mem_toDigits n

/-- An integer is written in digits, with a sign if it is negative. -/
theorem newline_not_mem_intRepr (n : Int) : '\n' ∉ (toString n).toList := by
  cases n with
  | ofNat n => exact newline_not_mem_repr n
  | negSucc n =>
    show '\n' ∉ ("-" ++ (n + 1).repr).toList
    rw [String.toList_append, Nat.toList_repr, List.mem_append, not_or]
    exact ⟨by decide, newline_not_mem_toDigits _⟩

namespace Decimal

/-- The digits that a number is rounded to are digits. -/
theorem newline_not_mem_ofScaled (value : Nat) (exponent : Int) :
    '\n' ∉ (ofScaled value exponent).digits := by
  intro hmem
  have hdropped := List.mem_reverse.1 hmem
  have hdigits := List.mem_reverse.1 ((List.dropWhile_suffix _).mem hdropped)
  exact newline_not_mem_toDigits value hdigits

variable {d : Decimal}

/-- Written out in full, a number has its digits, zeros and a point. -/
theorem newline_not_mem_positional (h : '\n' ∉ d.digits) (keepPoint : Bool) :
    '\n' ∉ d.positional keepPoint := by
  have htake (n : Nat) : '\n' ∉ d.digits.take n := fun hmem => h (List.mem_of_mem_take hmem)
  have hdrop (n : Nat) : '\n' ∉ d.digits.drop n := fun hmem => h (List.mem_of_mem_drop hmem)
  unfold positional
  dsimp only
  -- zeros in front, zeros behind, or the point between the digits
  split
  · simp [h]
  split
  · cases keepPoint <;> simp [h]
  · simp [htake, hdrop]

/-- Written with an exponent, it has an exponent besides. -/
theorem newline_not_mem_scientific (h : '\n' ∉ d.digits) : '\n' ∉ d.scientific := by
  have htake : '\n' ∉ d.digits.take 1 := fun hmem => h (List.mem_of_mem_take hmem)
  have hdrop : '\n' ∉ d.digits.drop 1 := fun hmem => h (List.mem_of_mem_drop hmem)
  have hexponent := newline_not_mem_toDigits (d.point - 1).natAbs
  have hfraction : '\n' ∉ (if (d.digits.drop 1).isEmpty then [] else '.' :: d.digits.drop 1) := by
    split
    · exact List.not_mem_nil
    · exact List.not_mem_cons_of_ne_of_not_mem (by decide) hdrop
  have hsign : '\n' ≠ (if d.point - 1 < 0 then '-' else '+') := by
    split <;> decide
  unfold scientific
  dsimp only
  rw [List.mem_append, List.mem_append, List.mem_cons, List.mem_cons]
  -- first digit, fraction, the letter, the sign, the exponent
  rintro ((hfirst | hrest) | hmark | hsigned | hdigits)
  · exact htake hfirst
  · exact hfraction hrest
  · exact absurd hmark (by decide)
  · exact hsign hsigned
  · exact hexponent hdigits

/-- It is written in one of the two ways, by its size. -/
theorem newline_not_mem_jsonText (h : '\n' ∉ d.digits) : '\n' ∉ d.jsonText := by
  unfold jsonText
  split
  · exact newline_not_mem_positional h true
  · exact newline_not_mem_scientific h

end Decimal

namespace Binary64

/-- Whichever grid the search ends on, it gives digits of a number. -/
theorem newline_not_mem_search (i : Interval) (magnitude : Int) (tries digits : Nat) :
    '\n' ∉ (i.search magnitude tries digits).digits := by
  -- every number of digits that is tried gives digits
  induction tries generalizing digits with
  | zero => exact Decimal.newline_not_mem_ofScaled _ _
  | succ tries ih =>
    rw [Interval.search]
    split
    · exact Decimal.newline_not_mem_ofScaled _ _
    · exact ih (digits + 1)

/-- A sign puts nothing but itself in front. -/
theorem newline_not_mem_signed {text : List Char} (h : '\n' ∉ text) (negative : Bool) :
    '\n' ∉ signed negative text := by
  cases negative with
  | false => exact h
  | true => exact List.not_mem_cons_of_ne_of_not_mem (by decide) h

end Binary64

/-! ### Strings and values -/

namespace Json

/-- No digit of an escape is one, as all sixteen of them show. -/
theorem hexDigit_ne_newline : ∀ n < 16, hexDigit n ≠ '\n' := by decide

/-- A character is written as it is only if it is no control character, and an escape has none. -/
theorem newline_not_mem_escaped (c : Char) : '\n' ∉ escaped c := by
  by_cases hc : c = '\n'
  · subst hc
    decide
  -- A control character is written by the two digits of its number.
  have hhigh (h : c.toNat < 0x20) := hexDigit_ne_newline (c.toNat / 16) (by omega)
  have hlow (h : c.toNat < 0x20) := hexDigit_ne_newline (c.toNat % 16) (by omega)
  fun_cases escaped c
  case case8 hcontrol => simp [(hhigh hcontrol).symm, (hlow hcontrol).symm]
  case case9 => exact fun hmem => hc (List.mem_singleton.1 hmem).symm
  all_goals decide

/-- A text between quotes is its characters, each one escaped. -/
theorem newline_not_mem_quoted (s : String) : '\n' ∉ quoted s := by
  simp [quoted, newline_not_mem_escaped]

/-- A number that is no integer is written by its digits, or by a word. -/
theorem newline_not_mem_floatText (x : Binary64) : '\n' ∉ floatText x := by
  cases x with
  | infinite negative | nan =>
    show '\n' ∉ "null".toList
    decide
  | finite negative mantissa exponent =>
    -- zero is written out, any other number by the shortest digits that give it back
    cases mantissa with
    | zero =>
      show '\n' ∉ (String.ofList (Binary64.signed negative ['0', '.', '0'])).toList
      rw [String.toList_ofList]
      exact Binary64.newline_not_mem_signed (by decide) negative
    | succ mantissa =>
      show '\n' ∉ (String.ofList _).toList
      rw [String.toList_ofList]
      exact Binary64.newline_not_mem_signed
        (Decimal.newline_not_mem_jsonText (Binary64.newline_not_mem_search _ _ _ _)) negative

mutual

/-- A value is written in one line; one case for each constructor. -/
theorem newline_not_mem_textOf (value : Value) : '\n' ∉ textOf value := by
  -- a text is escaped, and what joins the parts of lists and maps has no line end
  match value with
  | .null => simp [textOf]
  | .bool true => simp [textOf]
  | .bool false => simp [textOf]
  | .int n => exact newline_not_mem_intRepr n
  | .float x => exact newline_not_mem_floatText x
  | .str s => exact newline_not_mem_quoted s
  | .list items => simp [textOf, newline_not_mem_itemsText items]
  | .map fields => simp [textOf, newline_not_mem_fieldsText fields]

theorem newline_not_mem_itemsText (items : List Value) : '\n' ∉ itemsText items := by
  match items with
  | [] => exact List.not_mem_nil
  | [item] => exact newline_not_mem_textOf item
  | item :: next :: rest =>
    simp [itemsText, newline_not_mem_textOf item, newline_not_mem_itemsText (next :: rest)]

/-- The case of the fields of an object. -/
theorem newline_not_mem_fieldsText (fields : List (String × Value)) : '\n' ∉ fieldsText fields := by
  match fields with
  | [] => exact List.not_mem_nil
  | [(name, value)] => simp [fieldsText, newline_not_mem_quoted, newline_not_mem_textOf value]
  | (name, value) :: next :: rest =>
    simp [fieldsText, newline_not_mem_quoted, newline_not_mem_textOf value,
      newline_not_mem_fieldsText (next :: rest)]

end

end Json

/-- **What a field shows of a scalar is one line.** -/
theorem newline_not_mem_literal (value : Option Value) : '\n' ∉ (literal value).toList := by
  cases value with
  | none => decide
  | some value =>
    show '\n' ∉ (String.ofList (Json.textOf value)).toList
    rw [String.toList_ofList]
    exact Json.newline_not_mem_textOf value

end TreeOutline
