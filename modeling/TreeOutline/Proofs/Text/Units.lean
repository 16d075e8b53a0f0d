import TreeOutline.Text.Units

namespace TreeOutline

/-!
# Seeking UTF-16 offsets

* `charsBefore` — how many characters start before a unit offset; all, when the text ends before it.
* `charsBefore_le_iff` — a character is not among them exactly when its offset is not before it.
* `charsWithin` — the characters whose offsets lie in a range.
* `snippet_eq` — there is a snippet when the range is in order and starts in the text; it has the
  characters of the range.
-/

/-- A front part has no more units than the text. -/
theorem unitCount_take_le (text : List Char) (k : Nat) :
    unitCount (text.take k) ≤ unitCount text := by
  induction text generalizing k with
  | nil => exact Nat.le_of_eq (by rw [List.take_nil])
  | cons c text ih =>
    cases k with
    | zero => exact Nat.zero_le _
    | succ k => exact Nat.add_le_add_left (ih k) _

/-- How many characters of the text start before the unit offset `units`. -/
def charsBefore (text : List Char) (units : Nat) : Nat :=
  (seekUnits text units).getD text.length

@[simp] theorem charsBefore_zero (text : List Char) : charsBefore text 0 = 0 := by
  unfold charsBefore
  rw [seekUnits_zero, Option.getD_some]

@[simp] theorem charsBefore_nil (units : Nat) : charsBefore [] units = 0 := by
  cases units with
  | zero => rfl
  | succ units => rfl

/-- A later unit is looked for behind the first character. -/
theorem seekUnits_cons {units : Nat} (h : 0 < units) (c : Char) (text : List Char) :
    seekUnits (c :: text) units = (seekUnits text (units - unitWidth c)).map (· + 1) := by
  cases units with
  | zero => exact absurd h (Nat.lt_irrefl 0)
  | succ units => rfl

/-- The characters before a later unit: the first one, and those of the rest. -/
theorem charsBefore_cons {units : Nat} (h : 0 < units) (c : Char) (text : List Char) :
    charsBefore (c :: text) units = charsBefore text (units - unitWidth c) + 1 := by
  unfold charsBefore
  rw [seekUnits_cons h]
  cases seekUnits text (units - unitWidth c) with
  | none => rfl
  | some count => rfl

/-- No more characters than there are come before a unit. -/
theorem charsBefore_le_length (text : List Char) (units : Nat) :
    charsBefore text units ≤ text.length := by
  induction text generalizing units with
  | nil => exact Nat.le_of_eq (charsBefore_nil units)
  | cons c text ih =>
    -- no unit left to count stops the search at once
    rcases Nat.eq_zero_or_pos units with rfl | hpos
    · rw [charsBefore_zero]
      exact Nat.zero_le _
    · rw [charsBefore_cons hpos]
      exact Nat.succ_le_succ (ih _)

/-- The place after `k` characters is reached exactly when they take all the units. -/
theorem charsBefore_le_iff {text : List Char} {k : Nat} (hk : k < text.length) (units : Nat) :
    charsBefore text units ≤ k ↔ units ≤ unitCount (text.take k) := by
  induction text generalizing units k with
  | nil => exact absurd hk (Nat.not_lt_zero k)
  | cons c text ih =>
    rcases Nat.eq_zero_or_pos units with rfl | hpos
    · simp
    · rw [charsBefore_cons hpos]
      cases k with
      | zero =>
        rw [List.take_zero, unitCount_nil]
        omega
      -- the first character takes its width off the units and one off the count
      | succ k =>
        have hrest := ih (Nat.lt_of_succ_lt_succ hk) (units - unitWidth c)
        rw [List.take_succ_cons, unitCount_cons]
        omega

/-- An offset is found exactly when it does not lie past the end. -/
theorem seekUnits_eq (text : List Char) (units : Nat) :
    seekUnits text units =
      if units ≤ unitCount text then some (charsBefore text units) else none := by
  induction text generalizing units with
  | nil =>
    cases units with
    | zero => rfl
    | succ units => rfl
  | cons c text ih =>
    rcases Nat.eq_zero_or_pos units with rfl | hpos
    · rw [seekUnits_zero, if_pos (Nat.zero_le _), charsBefore_zero]
    · -- the offset is in the text just when what is left of it is in the rest
      have hsplit : units - unitWidth c ≤ unitCount text ↔ units ≤ unitCount (c :: text) := by
        rw [unitCount_cons]
        omega
      rw [seekUnits_cons hpos, ih, charsBefore_cons hpos]
      by_cases hin : units ≤ unitCount (c :: text)
      · rw [if_pos hin, if_pos (hsplit.2 hin), Option.map_some]
      · rw [if_neg hin, if_neg (fun h => hin (hsplit.1 h)), Option.map_none]

/-! ### Snippets -/

/-- The characters with offsets from `first` up to `last`, in a text that starts at `offset`. -/
def charsWithin (first last : Nat) : (offset : Nat) → List Char → List Char
  | _, [] => []
  | offset, c :: text =>
    if first ≤ offset ∧ offset < last then c :: charsWithin first last (offset + unitWidth c) text
    else charsWithin first last (offset + unitWidth c) text

/-- Cutting a text at two offsets leaves the characters between them. -/
theorem drop_take_charsBefore (first last offset : Nat) (text : List Char) :
    (text.take (charsBefore text (last - offset))).drop (charsBefore text (first - offset)) =
      charsWithin first last offset text := by
  induction text generalizing offset with
  | nil => simp [charsWithin]
  | cons c text ih =>
    have hrest := ih (offset + unitWidth c)
    rw [← Nat.sub_sub, ← Nat.sub_sub] at hrest
    rw [charsWithin, ← hrest]
    rcases Nat.lt_or_ge offset last with hlast | hlast
    · rw [charsBefore_cons (Nat.sub_pos_of_lt hlast), List.take_succ_cons]
      rcases Nat.lt_or_ge offset first with hfirst | hfirst
      · rw [charsBefore_cons (Nat.sub_pos_of_lt hfirst), List.drop_succ_cons,
          if_neg fun h => Nat.not_le_of_lt hfirst h.1]
      · rw [if_pos ⟨hfirst, hlast⟩, Nat.sub_eq_zero_of_le hfirst, Nat.zero_sub]
        simp
    · -- past the range nothing is taken, here and in the rest
      rw [if_neg fun h => Nat.not_lt_of_le hlast h.2, Nat.sub_eq_zero_of_le hlast, Nat.zero_sub]
      simp

/-- No offset lies in a range that ends before it starts. -/
theorem charsWithin_of_lt {first last : Nat} (h : last < first) (offset : Nat) (text : List Char) :
    charsWithin first last offset text = [] := by
  induction text generalizing offset with
  | nil => rfl
  | cons c text ih =>
    rw [charsWithin, if_neg (by omega), ih]

/-- **A snippet has the characters of its range.** There is one exactly when the range is in order
and does not start past the end. -/
theorem snippet_eq (text : List Char) (first last : Nat) :
    snippet text (some first) (some last) =
      if first ≤ last ∧ first ≤ unitCount text then some (charsWithin first last 0 text)
      else none := by
  have hcut := drop_take_charsBefore first last 0 text
  rw [Nat.sub_zero, Nat.sub_zero] at hcut
  -- the order is tested first, then only the start has to be inside the text
  show (if last < first then none else
    (seekUnits text first).bind fun start =>
      some ((text.take (charsBefore text last)).drop start)) = _
  rw [seekUnits_eq]
  by_cases horder : last < first
  · rw [if_pos horder, if_neg fun h => Nat.not_le_of_lt horder h.1]
  · rw [if_neg horder]
    by_cases hin : first ≤ unitCount text
    · rw [if_pos hin, if_pos ⟨Nat.le_of_not_lt horder, hin⟩, Option.bind_some, hcut]
    · rw [if_neg hin, if_neg fun h => hin h.2, Option.bind_none]

/-- Without a snippet no character lies in the range. -/
theorem getD_snippet (text : List Char) (first last : Nat) :
    (snippet text (some first) (some last)).getD [] = charsWithin first last 0 text := by
  rw [snippet_eq]
  by_cases hsome : first ≤ last ∧ first ≤ unitCount text
  · rw [if_pos hsome, Option.getD_some]
  · rw [if_neg hsome, Option.getD_none]
    by_cases horder : last < first
    · rw [charsWithin_of_lt horder]
    · -- a start past the end leaves no character, so nothing is what there is to give
      have hpast : ¬ first ≤ unitCount text := fun h => hsome ⟨Nat.le_of_not_lt horder, h⟩
      have hall : charsBefore text first = text.length := by
        unfold charsBefore
        rw [seekUnits_eq, if_neg hpast, Option.getD_none]
      rw [← drop_take_charsBefore first last 0 text, Nat.sub_zero, hall, List.drop_eq_nil_of_le]
      exact List.length_take_le' _ _

end TreeOutline
