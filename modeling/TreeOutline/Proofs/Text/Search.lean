import Mathlib.Data.List.Infix

namespace TreeOutline

/-!
# Searching a text for a pattern

A pattern is a predicate on texts.  A search goes from left to right: it takes the match that
starts first, the longest of those that start there, and goes on after it.

* `FirstMatch` — the match that a search finds first, with the text before and after it.
* `Finds`, `FindsLast` — any match that a search finds, and the last one.
* `FirstMatch.unique`, `FindsLast.unique` — a search finds one thing only.
* `LastMatch` — what a search finds last, or that there is nothing to find; `LastMatch.cons` and
  `FirstMatch.lastMatch` follow a search along the text.
-/

variable {pattern : List Char → Prop} {text before found after : List Char}

/-- No part of the text matches. -/
def NoMatch (pattern : List Char → Prop) (text : List Char) : Prop :=
  ∀ other, pattern other → ¬ other <:+: text

/-- The first match: no other starts further left, and none that starts there is longer. -/
structure FirstMatch (pattern : List Char → Prop) (text before found after : List Char) :
    Prop where
  split : text = before ++ found ++ after
  matched : pattern found
  leftmost : ∀ front other rest, text = front ++ other ++ rest → pattern other →
    before.length ≤ front.length
  longest : ∀ other rest, text = before ++ other ++ rest → pattern other →
    other.length ≤ found.length

/-- A match that a search finds: the first one, or one that it finds after that. -/
inductive Finds (pattern : List Char → Prop) : (text before found after : List Char) → Prop where
  | first {text before found after : List Char} :
      FirstMatch pattern text before found after → Finds pattern text before found after
  | later {text front first rest before found after : List Char} :
      FirstMatch pattern text front first rest → Finds pattern rest before found after →
      Finds pattern text (front ++ first ++ before) found after

/-- The match that a search finds last. -/
structure FindsLast (pattern : List Char → Prop) (text before found after : List Char) :
    Prop where
  finds : Finds pattern text before found after
  none_after : NoMatch pattern after

/-- What a search finds last, if it finds anything. -/
def LastMatch (pattern : List Char → Prop) (text : List Char) : Option (List Char) → Prop
  | none => NoMatch pattern text
  | some found => ∃ before after, FindsLast pattern text before found after

/-! ### What is found -/

namespace Finds

/-- A text is what stands before a find, the find, and what stands behind it. -/
theorem split (h : Finds pattern text before found after) : text = before ++ found ++ after := by
  induction h with
  | first hfirst => exact hfirst.split
  | later hfirst _ ih =>
    rw [hfirst.split, ih]
    simp only [List.append_assoc]

/-- What is found is matched. -/
theorem matched (h : Finds pattern text before found after) : pattern found := by
  induction h with
  | first hfirst => exact hfirst.matched
  | later _ _ ih => exact ih

/-- What is found stands in the text. -/
theorem found_within (h : Finds pattern text before found after) : found <:+: text :=
  ⟨before, after, h.split.symm⟩

/-- No match that starts where one is found is longer. -/
theorem longest (h : Finds pattern text before found after) :
    ∀ other rest, text = before ++ other ++ rest → pattern other →
      other.length ≤ found.length := by
  induction h with
  | first hfirst => exact hfirst.longest
  -- every match that begins here ends within what the last one leaves
  | later hfirst _ ih =>
    intro other rest hsplit hother
    refine ih other rest ?_ hother
    rw [hfirst.split] at hsplit
    simpa only [List.append_assoc, List.append_cancel_left_eq] using hsplit

end Finds

/-! ### A search finds one thing only -/

/-- There is at most one first match. -/
theorem FirstMatch.unique {before' found' after' : List Char}
    (h : FirstMatch pattern text before found after)
    (h' : FirstMatch pattern text before' found' after') :
    before = before' ∧ found = found' ∧ after = after' := by
  -- each of the two is leftmost, so they begin alike; each is longest, so they end alike
  have hstart : before.length = before'.length :=
    Nat.le_antisymm (h.leftmost _ _ _ h'.split h'.matched) (h'.leftmost _ _ _ h.split h.matched)
  have hsplit : before ++ (found ++ after) = before' ++ (found' ++ after') := by
    simpa only [List.append_assoc] using h.split.symm.trans h'.split
  obtain ⟨rfl, hrest⟩ := List.append_inj hsplit hstart
  have hlength : found.length = found'.length :=
    Nat.le_antisymm (h'.longest _ _ h.split h.matched) (h.longest _ _ h'.split h'.matched)
  obtain ⟨rfl, rfl⟩ := List.append_inj hrest hlength
  exact ⟨rfl, rfl, rfl⟩

/-- There is at most one last match. -/
theorem FindsLast.unique {before' found' after' : List Char}
    (h : FindsLast pattern text before found after)
    (h' : FindsLast pattern text before' found' after') :
    before = before' ∧ found = found' ∧ after = after' := by
  obtain ⟨hfinds, hnone⟩ := h
  obtain ⟨hfinds', hnone'⟩ := h'
  -- Both searches begin with the same match; one that ends there has nothing after it.
  induction hfinds generalizing before' with
  | first hfirst =>
    cases hfinds' with
    | first hfirst' => exact hfirst.unique hfirst'
    | later hfirst' hlater' =>
      obtain ⟨-, -, rfl⟩ := hfirst.unique hfirst'
      exact absurd hlater'.found_within (hnone _ hlater'.matched)
  | later hfirst hlater ih =>
    cases hfinds' with
    | first hfirst' =>
      obtain ⟨-, -, rfl⟩ := hfirst.unique hfirst'
      exact absurd hlater.found_within (hnone' _ hlater.matched)
    | later hfirst' hlater' =>
      obtain ⟨rfl, rfl, rfl⟩ := hfirst.unique hfirst'
      obtain ⟨rfl, rfl, rfl⟩ := ih hnone hlater'
      exact ⟨rfl, rfl, rfl⟩

/-- Where a last match is found, there is one. -/
theorem FindsLast.not_noMatch (h : FindsLast pattern text before found after) :
    ¬ NoMatch pattern text :=
  fun hnone => hnone found h.finds.matched h.finds.found_within

/-- At most one answer is the last match. -/
theorem LastMatch.unique {answer answer' : Option (List Char)}
    (h : LastMatch pattern text answer) (h' : LastMatch pattern text answer') :
    answer = answer' := by
  match answer, answer' with
  | none, none => rfl
  -- one answer says that there is no match, and the other has one
  | none, some found' =>
    obtain ⟨before', after', hlast'⟩ := h'
    exact absurd h hlast'.not_noMatch
  | some found, none =>
    obtain ⟨before, after, hlast⟩ := h
    exact absurd h' hlast.not_noMatch
  | some found, some found' =>
    obtain ⟨before, after, hlast⟩ := h
    obtain ⟨before', after', hlast'⟩ := h'
    rw [(hlast.unique hlast').2.1]

/-! ### Along the text -/

section

variable {c : Char} (hnone : ∀ other, pattern other → ¬ other <+: c :: text)
include hnone

/-- Where no match starts, the first one is that of the rest. -/
theorem FirstMatch.cons (h : FirstMatch pattern text before found after) :
    FirstMatch pattern (c :: text) (c :: before) found after where
  split := by rw [h.split, List.cons_append, List.cons_append]
  matched := h.matched
  leftmost := by
    intro front other rest hsplit hother
    -- a match at the new first character is excluded, any other lies in the text
    cases front with
    | nil => exact absurd ⟨rest, by rw [hsplit, List.nil_append]⟩ (hnone other hother)
    | cons first front =>
      simp only [List.cons_append, List.cons.injEq] at hsplit
      have hrest := h.leftmost front other rest hsplit.2 hother
      rw [List.length_cons, List.length_cons]
      omega
  longest := by
    intro other rest hsplit hother
    refine h.longest other rest ?_ hother
    simpa only [List.cons_append, List.cons.injEq, true_and] using hsplit

/-- A find stays one behind a further character. -/
theorem Finds.cons (h : Finds pattern text before found after) :
    Finds pattern (c :: text) (c :: before) found after := by
  cases h with
  | first hfirst => exact .first (hfirst.cons hnone)
  | later hfirst hlater => exact .later (hfirst.cons hnone) hlater

/-- The last match stays the last one behind a further character. -/
theorem LastMatch.cons {answer : Option (List Char)} (h : LastMatch pattern text answer) :
    LastMatch pattern (c :: text) answer := by
  cases answer with
  | none =>
    intro other hother hpart
    -- a part of the longer text begins with its first character or lies behind it
    rcases List.infix_cons_iff.1 hpart with hprefix | hrest
    · exact hnone other hother hprefix
    · exact h other hother hrest
  | some found =>
    obtain ⟨before, after, hlast⟩ := h
    exact ⟨c :: before, after, hlast.finds.cons hnone, hlast.none_after⟩

end

/-- After its first match a search goes on in the rest. -/
theorem FirstMatch.lastMatch (h : FirstMatch pattern text before found after)
    {answer : Option (List Char)} (hrest : LastMatch pattern after answer) :
    LastMatch pattern text (some (answer.getD found)) := by
  cases answer with
  | none => exact ⟨before, after, .first h, hrest⟩
  | some later =>
    obtain ⟨front, rest, hlast⟩ := hrest
    exact ⟨before ++ found ++ front, rest, .later h hlast.finds, hlast.none_after⟩

end TreeOutline
