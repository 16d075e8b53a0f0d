import Mathlib.Data.List.TakeWhile
import TreeOutline.Proofs.Text.Search
import TreeOutline.Workbench.ActiveKind

namespace TreeOutline

/-!
# Names of kinds in a text

A kind's name is one or more words, each a capital letter with small letters and digits after it.

* `KindWord`, `KindName` — these texts, said without the functions that look for them.
* `KindName.cut` — a name can be cut in front of any capital letter but its first.
* `capitalWords_longest` — the longest name that a text starts with.
* `lastMatch_kindNames` — **the last of a text's names is what a search for names finds last**.
* `LastRun`, `findsLast_iff_lastRun` — where that is: at the last name that cannot be extended.
-/

/-! ### Words and names -/

/-- A capital letter and one or more small letters or digits. -/
def KindWord (word : List Char) : Prop :=
  ∃ first tail, word = first :: tail ∧ isCapital first = true ∧ tail ≠ [] ∧
    ∀ c ∈ tail, isWordTail c = true

/-- One or more words. -/
inductive KindName : List Char → Prop where
  | word {word : List Char} : KindWord word → KindName word
  | words {word rest : List Char} : KindWord word → KindName rest → KindName (word ++ rest)

/-- No capital continues a word. -/
theorem isWordTail_of_isCapital {c : Char} (h : isCapital c = true) : isWordTail c = false := by
  simp only [isCapital, isWordTail, Bool.and_eq_true, decide_eq_true_eq, Bool.or_eq_false_iff,
    Bool.and_eq_false_iff, decide_eq_false_iff_not, Char.le_def, UInt32.le_iff_toNat_le] at h ⊢
  -- the ranges of letters and digits do not meet
  have hA : ('A' : Char).val.toNat = 65 := rfl
  have hZ : ('Z' : Char).val.toNat = 90 := rfl
  have ha : ('a' : Char).val.toNat = 97 := rfl
  have h9 : ('9' : Char).val.toNat = 57 := rfl
  omega

/-- A word begins with a capital. -/
theorem KindWord.exists_cons {word : List Char} (h : KindWord word) :
    ∃ first tail, word = first :: tail ∧ isCapital first = true := by
  obtain ⟨first, tail, hword, hfirst, -, -⟩ := h
  exact ⟨first, tail, hword, hfirst⟩

theorem KindWord.ne_nil {word : List Char} (h : KindWord word) : word ≠ [] := by
  obtain ⟨first, tail, rfl, -⟩ := h.exists_cons
  exact List.cons_ne_nil first tail

/-- Inside a word there is no other capital letter. -/
theorem KindWord.ne_append_cons {word front back : List Char} {c : Char} (h : KindWord word)
    (hc : isCapital c = true) (hfront : front ≠ []) : word ≠ front ++ c :: back := by
  obtain ⟨first, tail, rfl, -, -, htail⟩ := h
  obtain ⟨x, front, rfl⟩ := List.exists_cons_of_ne_nil hfront
  intro hword
  -- a capital past the first letter would be in the tail, and no capital is
  have hmem : c ∈ tail := by
    rw [(List.cons.inj hword).2]
    exact List.mem_append_right _ List.mem_cons_self
  have hctail := htail c hmem
  rw [isWordTail_of_isCapital hc] at hctail
  exact Bool.false_ne_true hctail

namespace KindName

variable {name : List Char}

/-- A name begins with a capital. -/
theorem exists_cons (h : KindName name) :
    ∃ first tail, name = first :: tail ∧ isCapital first = true := by
  cases h with
  | word hword => exact hword.exists_cons
  | words hword hrest =>
    obtain ⟨first, tail, rfl, hfirst⟩ := hword.exists_cons
    exact ⟨first, _, List.cons_append .., hfirst⟩

theorem ne_nil (h : KindName name) : name ≠ [] := by
  obtain ⟨first, tail, rfl, -⟩ := h.exists_cons
  exact List.cons_ne_nil first tail

/-- Two names behind each other are a name. -/
theorem append {other : List Char} (h : KindName name) (hother : KindName other) :
    KindName (name ++ other) := by
  induction h with
  | word hword => exact .words hword hother
  | words hword _ ih =>
    rw [List.append_assoc]
    exact .words hword ih

/-- A name goes on with every small letter and every digit. -/
theorem snoc (h : KindName name) {c : Char} (hc : isWordTail c = true) :
    KindName (name ++ [c]) := by
  -- the character joins the last word of the name
  induction h with
  | word hword =>
    obtain ⟨first, tail, rfl, hfirst, -, htail⟩ := hword
    refine .word ⟨first, tail ++ [c], by simp, hfirst, by simp, ?_⟩
    intro x hx
    rcases List.mem_append.1 hx with hx | hx
    · exact htail x hx
    · rw [List.mem_singleton.1 hx]
      exact hc
  | words hword _ ih =>
    rw [List.append_assoc]
    exact .words hword ih

/-- In a name stand capital letters, small letters and digits only. -/
theorem isCapital_or_isWordTail (h : KindName name) :
    ∀ c ∈ name, isCapital c = true ∨ isWordTail c = true := by
  -- for one word first, a name being a row of words
  have hchars : ∀ {word : List Char}, KindWord word →
      ∀ c ∈ word, isCapital c = true ∨ isWordTail c = true := by
    rintro word ⟨first, tail, rfl, hfirst, -, htail⟩ c hc
    rcases List.mem_cons.1 hc with rfl | hc
    · exact .inl hfirst
    · exact .inr (htail c hc)
  induction h with
  | word hword => exact hchars hword
  | words hword _ ih => exact List.forall_mem_append.2 ⟨hchars hword, ih⟩

/-- In front of a capital letter, a name can be cut in two. -/
theorem cut {front rest : List Char} {c : Char} (h : KindName (front ++ c :: rest))
    (hc : isCapital c = true) (hfront : front ≠ []) :
    KindName front ∧ KindName (c :: rest) := by
  generalize hname : front ++ c :: rest = name at h
  induction h generalizing front with
  | word hword => exact absurd hname.symm (hword.ne_append_cons hc hfront)
  | @words word name hword hrest ih =>
    rcases List.append_eq_append_iff.1 hname with ⟨back, rfl, hback⟩ | ⟨back, rfl, hback⟩
    · -- The first word ends no sooner than the cut, so it ends there.
      cases back with
      | nil =>
        rw [List.append_nil] at hword
        exact ⟨.word hword, by rwa [hback, List.nil_append]⟩
      | cons x back =>
        obtain ⟨rfl, -⟩ := List.cons.inj hback
        exact absurd rfl (hword.ne_append_cons hc hfront)
    · cases back with
      | nil =>
        rw [List.append_nil]
        exact ⟨.word hword, by rwa [← List.nil_append (c :: rest), ← hback]⟩
      | cons x back =>
        obtain ⟨hback, hafter⟩ := ih (List.cons_ne_nil x back) hback.symm
        exact ⟨.words hword hback, hafter⟩

end KindName

/-! ### The longest name at the start of a text -/

/-- The word that is taken stands at the start of the text. -/
theorem capitalWord?_eq_some {text word rest : List Char}
    (h : capitalWord? text = some (word, rest)) : text = word ++ rest ∧ KindWord word := by
  cases text with
  | nil => simp [capitalWord?] at h
  | cons c text =>
    rw [capitalWord?, Option.ite_none_right_eq_some, Option.some.injEq, Prod.mk.injEq] at h
    obtain ⟨⟨hc, hne⟩, rfl, rfl⟩ := h
    -- the tail is all there is of it, and not empty
    refine ⟨?_, c, _, rfl, hc, hne, fun x hx => List.mem_takeWhile_imp hx⟩
    rw [List.cons_append, List.takeWhile_append_dropWhile]

/-- A word at the start of a text is a part of the one that is found there. -/
theorem KindWord.prefix_capitalWord? {text word : List Char} (h : KindWord word)
    (hpart : word <+: text) :
    ∃ whole rest, capitalWord? text = some (whole, rest) ∧ word <+: whole := by
  obtain ⟨first, tail, rfl, hfirst, hne, htail⟩ := h
  obtain ⟨rest, rfl⟩ := hpart
  rw [List.cons_append]
  -- the tail is taken whole, and maybe more of what is behind it
  have htake : (tail ++ rest).takeWhile isWordTail = tail ++ rest.takeWhile isWordTail :=
    List.takeWhile_append_of_pos htail
  have hfound : (tail ++ rest).takeWhile isWordTail ≠ [] := by
    rw [htake]
    exact List.append_ne_nil_of_left_ne_nil hne _
  refine ⟨_, _, if_pos ⟨hfirst, hfound⟩, rest.takeWhile isWordTail, ?_⟩
  rw [htake, List.cons_append]

/-- Words are taken one after the other. -/
theorem capitalWords_of_some {text word rest : List Char}
    (h : capitalWord? text = some (word, rest)) :
    capitalWords text = (word ++ (capitalWords rest).1, (capitalWords rest).2) := by
  rw [capitalWords]
  split
  · next hsome =>
    rw [h, Option.some.injEq, Prod.mk.injEq] at hsome
    obtain ⟨rfl, rfl⟩ := hsome
    rfl
  · next hnone =>
    rw [h] at hnone
    exact nomatch hnone

/-- The words that are taken and what is left are the text. -/
theorem capitalWords_split (text : List Char) :
    text = (capitalWords text).1 ++ (capitalWords text).2 := by
  fun_induction capitalWords text with
  | case1 text word rest hword more ih =>
    rw [(capitalWord?_eq_some hword).1, List.append_assoc, ← ih]
  | case2 => rfl

/-- Words that are taken make a name, unless there are none. -/
theorem capitalWords_name (text : List Char) :
    (capitalWords text).1 = [] ∨ KindName (capitalWords text).1 := by
  fun_induction capitalWords text with
  | case1 text word rest hword more ih =>
    have hfirst : KindWord word := (capitalWord?_eq_some hword).2
    -- one word, or a word and the name that follows it
    rcases ih with hnil | hname
    · exact .inr (by rw [hnil, List.append_nil]; exact .word hfirst)
    · exact .inr (.words hfirst hname)
  | case2 => exact .inl rfl

/-- **Longest.** Every name at the start of a text is a part of the one that is found there. -/
theorem capitalWords_longest {text name : List Char} (h : KindName name) (hpart : name <+: text) :
    name <+: (capitalWords text).1 := by
  induction text using capitalWords.induct generalizing name with
  | case1 text word rest hword ih =>
    obtain ⟨hsplit, hfirst⟩ := capitalWord?_eq_some hword
    rw [capitalWords_of_some hword]
    -- The first word of a name at the start of the text is part of the word that is found.
    have hpre : ∀ {other}, KindWord other → other <+: text → other <+: word := by
      intro other hother hstart
      obtain ⟨whole, back, hwhole, hprefix⟩ := hother.prefix_capitalWord? hstart
      rw [hword, Option.some.injEq, Prod.mk.injEq] at hwhole
      rwa [hwhole.1]
    cases h with
    | word hname => exact (hpre hname hpart).trans (List.prefix_append _ _)
    | @words other name hother hname =>
      obtain ⟨back, rfl⟩ := hpre hother ((List.prefix_append _ _).trans hpart)
      obtain ⟨c, tail, rfl, hc⟩ := hname.exists_cons
      rw [hsplit, List.append_assoc, List.prefix_append_right_inj] at hpart
      cases back with
      | nil =>
        rw [List.append_nil, List.prefix_append_right_inj]
        exact ih hname hpart
      | cons x back =>
        -- The name goes on with a capital letter, so the word that is found cannot go on there.
        obtain ⟨rfl, -⟩ := List.cons_prefix_cons.1 hpart
        exact absurd rfl (hfirst.ne_append_cons hc hother.ne_nil)
  | case2 text hnone =>
    have hword : ∃ word, KindWord word ∧ word <+: text := by
      cases h with
      | word hname => exact ⟨_, hname, hpart⟩
      | words hword _ => exact ⟨_, hword, (List.prefix_append _ _).trans hpart⟩
    obtain ⟨word, hword, hstart⟩ := hword
    obtain ⟨whole, rest, hwhole, -⟩ := hword.prefix_capitalWord? hstart
    rw [hnone] at hwhole
    exact nomatch hwhole

/-- The name that is found at the start of a text is what a search for names finds first. -/
theorem firstMatch_capitalWords {text : List Char} (h : (capitalWords text).1 ≠ []) :
    FirstMatch KindName text [] (capitalWords text).1 (capitalWords text).2 where
  split := by rw [List.nil_append, ← capitalWords_split]
  matched := (capitalWords_name text).resolve_left h
  leftmost _ _ _ _ _ := Nat.zero_le _
  longest := by
    intro other rest hsplit hother
    exact (capitalWords_longest hother ⟨rest, hsplit.symm⟩).length_le

/-- A text is a name if the name found at its start is all of it. -/
theorem kindName_iff {name : List Char} :
    KindName name ↔ name ≠ [] ∧ (capitalWords name).1 = name := by
  constructor
  · intro h
    refine ⟨h.ne_nil, ?_⟩
    -- the words at the front are a part of the name and no shorter than it
    have hpart : (capitalWords name).1 <+: name :=
      ⟨(capitalWords name).2, (capitalWords_split name).symm⟩
    exact hpart.eq_of_length_le (capitalWords_longest h List.prefix_rfl).length_le
  · rintro ⟨hne, heq⟩
    rcases capitalWords_name name with hnil | hname
    · exact absurd (heq.symm.trans hnil) hne
    · rwa [heq] at hname

instance (name : List Char) : Decidable (KindName name) := decidable_of_iff _ kindName_iff.symm

/-! ### The last name in a text -/

/-- **The last of the names in a text** is what a search for names finds last. -/
theorem lastMatch_kindNames (text : List Char) :
    LastMatch KindName text (kindNames text).getLast? := by
  fun_induction kindNames text with
  | case1 =>
    intro other hother hpart
    exact hother.ne_nil (List.infix_nil.1 hpart)
  -- no name begins here, so the last one is in the rest
  | case2 c rest hnil ih =>
    refine LastMatch.cons (fun other hother hpart => ?_) ih
    have hlongest := capitalWords_longest hother hpart
    rw [hnil] at hlongest
    exact hother.ne_nil (List.prefix_nil.1 hlongest)
  | case3 c rest hne ih =>
    rw [List.getLast?_cons]
    exact (firstMatch_capitalWords hne).lastMatch ih

/-! ### Where the last name stands -/

variable {text before name after : List Char}

namespace Finds

/-- After a name that is found there is no letter or digit that it would go on with. -/
theorem stops (h : Finds KindName text before name after) {c : Char} {rest : List Char}
    (hafter : after = c :: rest) : isWordTail c = false := by
  by_contra hc
  rw [Bool.not_eq_false] at hc
  have hlonger := h.longest (name ++ [c]) rest (by rw [h.split, hafter]; simp) (h.matched.snoc hc)
  rw [List.length_append, List.length_singleton] at hlonger
  omega

/-- Right after a name that is found there is no other name. -/
theorem not_prefix_after (h : Finds KindName text before name after) {other : List Char}
    (hother : KindName other) : ¬ other <+: after := by
  rintro ⟨rest, rfl⟩
  have hlonger := h.longest (name ++ other) rest (by rw [h.split]; simp) (h.matched.append hother)
  have hpos : 0 < other.length := List.length_pos_iff.2 hother.ne_nil
  rw [List.length_append] at hlonger
  omega

/-- A name that is found is not the end of a longer one: in front of it no name ends. -/
theorem not_suffix_before (h : Finds KindName text before name after) {other : List Char}
    (hother : KindName other) : ¬ other <:+ before := by
  induction h generalizing other with
  | first hfirst =>
    rintro ⟨front, rfl⟩
    have hleft := hfirst.leftmost front other _ (by rw [hfirst.split, List.append_assoc]) hother
    have hpos : 0 < other.length := List.length_pos_iff.2 hother.ne_nil
    rw [List.length_append] at hleft
    omega
  | @later text front first rest before name after hfirst hlater ih =>
    rintro ⟨lead, hlead⟩
    rcases List.append_eq_append_iff.1 hlead with ⟨back, -, rfl⟩ | ⟨back, -, hbefore⟩
    · -- The name would reach back into the match found before.
      rcases eq_or_ne back [] with rfl | hback
      · exact ih hother List.suffix_rfl
      · cases before with
        | nil =>
          refine (Finds.first hfirst).not_prefix_after hlater.matched ⟨after, ?_⟩
          rw [hlater.split, List.nil_append]
        | cons c tail =>
          rcases hother.isCapital_or_isWordTail c (by simp) with hc | hc
          · exact ih (hother.cut hc hback).2 List.suffix_rfl
          · have hgoes : rest = c :: (tail ++ name ++ after) := by
              rw [hlater.split]
              simp
            have hstops := (Finds.first hfirst).stops hgoes
            rw [hc] at hstops
            exact Bool.false_ne_true hstops.symm
    · exact ih hother ⟨back, hbefore.symm⟩

end Finds

/-- The last name in a text that is no part of a longer one: no name ends in front of it, it does
not go on, and there is no name after it. -/
structure LastRun (text before name after : List Char) : Prop where
  split : text = before ++ name ++ after
  named : KindName name
  starts : ∀ other, KindName other → ¬ other <:+ before
  stops : ∀ c rest, after = c :: rest → isWordTail c = false
  last : NoMatch KindName after

namespace LastRun

variable {before' name' after' : List Char}

/-- No other last name starts further left. -/
theorem start_le (h : LastRun text before name after) (h' : LastRun text before' name' after') :
    before.length ≤ before'.length := by
  by_contra hlt
  have hsplit : before' ++ (name' ++ after') = before ++ (name ++ after) := by
    simpa only [List.append_assoc] using h'.split.symm.trans h.split
  -- The part of the text between the two starts.
  obtain ⟨front, rfl, hfront⟩ : ∃ front, before = before' ++ front ∧
      name' ++ after' = front ++ (name ++ after) := by
    rcases List.append_eq_append_iff.1 hsplit with ⟨front, hbefore, hrest⟩ | ⟨front, hbefore, -⟩
    · exact ⟨front, hbefore, hrest⟩
    · rw [hbefore, List.length_append] at hlt
      omega
  rcases List.append_eq_append_iff.1 hfront with ⟨back, -, hback⟩ | ⟨back, hback, hrest⟩
  · exact h'.last name h.named ⟨back, after, by rw [hback, List.append_assoc]⟩
  · cases back with
    | nil => exact h'.last name h.named ⟨[], after, hrest⟩
    | cons c back =>
      obtain ⟨first, tail, hname, hfirst⟩ := h.named.exists_cons
      rw [hname, List.cons_append, List.cons_append] at hrest
      obtain ⟨rfl, -⟩ := List.cons.inj hrest
      have hne : front ≠ [] := by
        rintro rfl
        rw [List.append_nil] at hlt
        omega
      have hnamed := h'.named
      rw [hback] at hnamed
      exact h.starts front (hnamed.cut hfirst hne).1 (List.suffix_append _ _)

/-- No other last name at the same place is longer. -/
theorem length_le (h : LastRun text before name after) (h' : LastRun text before name' after') :
    name'.length ≤ name.length := by
  have hsplit : name ++ after = name' ++ after' := by
    simpa only [List.append_assoc, List.append_cancel_left_eq] using h.split.symm.trans h'.split
  -- one is in front of the other; a longer second name would go on where the first stops
  rcases List.append_eq_append_iff.1 hsplit with ⟨back, rfl, hafter⟩ | ⟨back, rfl, -⟩
  · cases back with
    | nil => rw [List.append_nil]
    | cons c back =>
      rcases h'.named.isCapital_or_isWordTail c (by simp) with hc | hc
      · have hcut := (h'.named.cut hc h.named.ne_nil).2
        exact absurd ⟨[], after', hafter.symm⟩ (h.last _ hcut)
      · have hstops := h.stops c (back ++ after') hafter
        rw [hc] at hstops
        exact absurd hstops (by simp)
  · rw [List.length_append]
    omega

/-- A text has at most one last run. -/
theorem unique (h : LastRun text before name after) (h' : LastRun text before' name' after') :
    before = before' ∧ name = name' ∧ after = after' := by
  have hsplit : before ++ (name ++ after) = before' ++ (name' ++ after') := by
    simpa only [List.append_assoc] using h.split.symm.trans h'.split
  -- neither can begin before the other, neither can be longer
  obtain ⟨rfl, hrest⟩ :=
    List.append_inj hsplit (Nat.le_antisymm (h.start_le h') (h'.start_le h))
  obtain ⟨rfl, rfl⟩ :=
    List.append_inj hrest (Nat.le_antisymm (h'.length_le h) (h.length_le h'))
  exact ⟨rfl, rfl, rfl⟩

end LastRun

theorem FindsLast.lastRun (h : FindsLast KindName text before name after) :
    LastRun text before name after where
  split := h.finds.split
  named := h.finds.matched
  starts _ hother := h.finds.not_suffix_before hother
  stops _ _ hafter := h.finds.stops hafter
  last := h.none_after

/-- **What a search for names finds last** is the last name that is no part of a longer one. -/
theorem findsLast_iff_lastRun :
    FindsLast KindName text before name after ↔ LastRun text before name after := by
  refine ⟨FindsLast.lastRun, fun h => ?_⟩
  have hlast := lastMatch_kindNames text
  -- the search finds something, and what it finds is such a run, of which there is one
  cases hfound : (kindNames text).getLast? with
  | none =>
    rw [hfound] at hlast
    exact absurd ⟨before, after, h.split.symm⟩ (hlast name h.named)
  | some found =>
    rw [hfound] at hlast
    obtain ⟨front, rest, hfinds⟩ := hlast
    obtain ⟨rfl, rfl, rfl⟩ := h.unique hfinds.lastRun
    exact hfinds

end TreeOutline
