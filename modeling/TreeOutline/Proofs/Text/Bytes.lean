import Mathlib.Data.List.Basic
import TreeOutline.Proofs.Text.Units

namespace TreeOutline

/-!
# Snippets as slices of bytes

A text is kept as bytes, so a snippet is cut out of it between two byte indexes.

* `bytesBefore`, `seekBytes_eq` — the byte index of a place, and where seeking bytes leads to.
* `Slices` — what stands between two byte indexes that are in order and split no character.
* `byteRange_slices` — **a snippet can be cut where `byteRange` says**, and is what stands there.
* `snippet_append` — snippets of adjoining ranges make up that of the whole range.
* `snippet_exact` — when there is a snippet, which characters it has, and which bytes.
-/

/-! ### Byte indexes -/

/-- The number of bytes of the first `count` characters. -/
def bytesBefore (text : List Char) (count : Nat) : Nat :=
  (String.ofList (text.take count)).utf8ByteSize

@[simp] theorem bytesBefore_zero (text : List Char) : bytesBefore text 0 = 0 := by
  simp [bytesBefore]

/-- The bytes before a place, character by character. -/
theorem bytesBefore_cons (c : Char) (text : List Char) (count : Nat) :
    bytesBefore (c :: text) (count + 1) = c.utf8Size + bytesBefore text count := by
  unfold bytesBefore
  rw [List.take_succ_cons, String.ofList_cons, String.utf8ByteSize_append,
    String.utf8ByteSize_singleton]

/-- Seeking bytes finds the same character as seeking units. -/
theorem seekBytes_eq (units index offset : Nat) (text : List Char) :
    seekBytes units index offset text =
      (seekUnits text (units - offset)).map fun count => index + bytesBefore text count := by
  -- the loop in octets stops where the search in units does, so only its count is other
  induction text generalizing index offset with
  | nil =>
    rw [seekBytes]
    by_cases hreached : units ≤ offset
    · rw [if_pos hreached, Nat.sub_eq_zero_of_le hreached]
      simp
    · obtain ⟨rest, hrest⟩ : ∃ rest, units - offset = rest + 1 :=
        Nat.exists_eq_add_one_of_ne_zero (by omega)
      rw [if_neg hreached, hrest, seekUnits, Option.map_none]
  | cons c text ih =>
    rw [seekBytes]
    by_cases hreached : units ≤ offset
    · rw [if_pos hreached, Nat.sub_eq_zero_of_le hreached]
      simp
    · have hpos : 0 < units - offset := by omega
      rw [if_neg hreached, ih, seekUnits_cons hpos, Option.map_map, Nat.sub_sub]
      congr 1
      funext count
      rw [Function.comp_apply, bytesBefore_cons, Nat.add_assoc]

/-! ### Slices -/

/-- What stands in a text between two byte indexes.  Both are boundaries of characters, and they are
in order. -/
structure Slices (source : String) (start stop : Nat) (cut : String) : Prop where
  start_valid : (String.Pos.Raw.mk start).IsValid source
  stop_valid : (String.Pos.Raw.mk stop).IsValid source
  ordered : start ≤ stop
  bytes : source.toByteArray.extract start stop = cut.toByteArray

/-- The middle of three texts is cut out by the bytes in front of it and behind it. -/
theorem slices_append (before cut after : String) :
    Slices (before ++ cut ++ after) before.utf8ByteSize (before ++ cut).utf8ByteSize cut where
  start_valid := String.Pos.Raw.isValid_iff_exists_append.2
    ⟨before, cut ++ after, String.append_assoc .., rfl⟩
  stop_valid := String.Pos.Raw.isValid_iff_exists_append.2 ⟨before ++ cut, after, rfl, rfl⟩
  ordered := by
    rw [String.utf8ByteSize_append]
    exact Nat.le_add_right _ _
  bytes := by
    -- octets of a concatenation are the concatenated octets, so the cut falls between them
    have hcut : (before ++ cut).toByteArray.extract before.utf8ByteSize
        (before ++ cut).utf8ByteSize = cut.toByteArray := by
      rw [String.toByteArray_append]
      exact ByteArray.extract_append_eq_right (by simp) (by simp)
    rw [String.toByteArray_append, ByteArray.extract_append, hcut]
    simp

/-- The characters between two places are what stands between their byte indexes. -/
theorem slices_of_le (source : String) {start stop : Nat} (h : start ≤ stop) :
    Slices source (bytesBefore source.toList start) (bytesBefore source.toList stop)
      (String.ofList ((source.toList.take stop).drop start)) := by
  have htake : (source.toList.take stop).take start = source.toList.take start := by
    rw [List.take_take, Nat.min_eq_left h]
  -- the source as three texts, of which the one in the middle is cut out
  have hstop : String.ofList (source.toList.take start) ++
      String.ofList ((source.toList.take stop).drop start) =
        String.ofList (source.toList.take stop) := by
    rw [← String.ofList_append, ← htake, List.take_append_drop]
  have hsource : String.ofList (source.toList.take start) ++
      String.ofList ((source.toList.take stop).drop start) ++
        String.ofList (source.toList.drop stop) = source := by
    rw [hstop, ← String.ofList_append, List.take_append_drop, String.ofList_toList]
  have hslices := slices_append (String.ofList (source.toList.take start))
    (String.ofList ((source.toList.take stop).drop start))
    (String.ofList (source.toList.drop stop))
  rw [hsource, hstop] at hslices
  exact hslices

/-! ### Snippets -/

/-- More units are never fewer characters. -/
theorem charsBefore_mono (text : List Char) {first last : Nat} (h : first ≤ last) :
    charsBefore text first ≤ charsBefore text last := by
  rcases Nat.lt_or_ge (charsBefore text last) text.length with hin | hout
  · rw [charsBefore_le_iff hin]
    exact Nat.le_trans h ((charsBefore_le_iff hin last).1 (Nat.le_refl _))
  · exact Nat.le_trans (charsBefore_le_length text first) hout

/-- The characters with offsets in a range, picked by where they start. -/
theorem charsWithin_eq_filter (first last offset : Nat) (text : List Char) :
    charsWithin first last offset text =
      (text.zipIdx.filter fun entry =>
        first ≤ offset + unitCount (text.take entry.2) ∧
          offset + unitCount (text.take entry.2) < last).map Prod.fst := by
  induction text generalizing offset with
  | nil => rfl
  | cons c text ih =>
    rw [charsWithin, ih, List.zipIdx_cons', List.filter_cons, List.filter_map, List.take_zero,
      unitCount_nil, Nat.add_zero]
    -- the places in the rest, all one further on and a first character wider
    have hrest : ((text.zipIdx.filter ((fun entry : Char × Nat => decide
        (first ≤ offset + unitCount ((c :: text).take entry.2) ∧
          offset + unitCount ((c :: text).take entry.2) < last)) ∘ Prod.map id (· + 1))).map
            (Prod.map id (· + 1))).map Prod.fst =
        (text.zipIdx.filter fun entry =>
          first ≤ offset + unitWidth c + unitCount (text.take entry.2) ∧
            offset + unitWidth c + unitCount (text.take entry.2) < last).map Prod.fst := by
      rw [List.map_map]
      simp only [Function.comp_def, Prod.map_snd, List.take_succ_cons, unitCount_cons,
        Nat.add_assoc, Prod.map_fst, id]
      rfl
    by_cases hin : first ≤ offset ∧ offset < last
    · rw [if_pos hin, if_pos (decide_eq_true hin), List.map_cons, hrest]
    · rw [if_neg hin, if_neg (by simpa using hin), hrest]

/-- The bytes of a range are those of the characters before its ends, if the ends are in order and
in the text. -/
theorem byteRange_eq (source : String) (first last : Nat) :
    byteRange source first last =
      if first ≤ last ∧ first ≤ unitCount source.toList then
        some (bytesBefore source.toList (charsBefore source.toList first),
          bytesBefore source.toList (charsBefore source.toList last))
      else none := by
  have hstop : (seekBytes last 0 0 source.toList).getD source.utf8ByteSize =
      bytesBefore source.toList (charsBefore source.toList last) := by
    rw [seekBytes_eq, Nat.sub_zero, charsBefore]
    cases seekUnits source.toList last with
    | none =>
      -- Past the end, the text is taken whole.
      rw [Option.map_none, Option.getD_none, Option.getD_none, bytesBefore, List.take_length,
        String.ofList_toList]
    | some count => rw [Option.map_some, Option.getD_some, Option.getD_some, Nat.zero_add]
  rw [byteRange, hstop, seekBytes_eq, Nat.sub_zero, seekUnits_eq]
  by_cases horder : last < first
  · rw [if_pos horder, if_neg fun h => Nat.not_le_of_lt horder h.1]
  · by_cases hin : first ≤ unitCount source.toList
    · rw [if_neg horder, if_pos hin, if_pos ⟨Nat.le_of_not_lt horder, hin⟩, Option.map_some,
        Option.map_some, Nat.zero_add]
    · rw [if_neg horder, if_neg hin, if_neg fun h => hin h.2, Option.map_none, Option.map_none]

/-- **A snippet can be cut out of the bytes.** When its range is in order and starts in the text,
the byte indexes split no character and are in order, and the snippet is what stands between
them. -/
theorem byteRange_slices {source : String} {first last : Nat} {cut : List Char}
    (h : snippet source.toList (some first) (some last) = some cut) :
    ∃ start stop, byteRange source first last = some (start, stop) ∧
      Slices source start stop (String.ofList cut) := by
  rw [snippet_eq, Option.ite_none_right_eq_some, Option.some.injEq] at h
  obtain ⟨hrange, rfl⟩ := h
  have hcut := drop_take_charsBefore first last 0 source.toList
  rw [Nat.sub_zero, Nat.sub_zero] at hcut
  refine ⟨_, _, by rw [byteRange_eq, if_pos hrange], ?_⟩
  -- the characters between two offsets are those between two places in the text
  rw [← hcut]
  exact slices_of_le source (charsBefore_mono source.toList hrange.1)

/-- The characters of a range are those of its two parts. -/
theorem charsWithin_append {first middle last : Nat} (hfirst : first ≤ middle)
    (hlast : middle ≤ last) (text : List Char) :
    charsWithin first middle 0 text ++ charsWithin middle last 0 text =
      charsWithin first last 0 text := by
  have hcut (first last : Nat) := drop_take_charsBefore first last 0 text
  simp only [Nat.sub_zero] at hcut
  have hstart := charsBefore_mono text hfirst
  have hstop := charsBefore_mono text hlast
  rw [← hcut, ← hcut, ← hcut]
  -- three places in order are all that counts from here on
  generalize charsBefore text first = start at *
  generalize charsBefore text middle = place at *
  generalize charsBefore text last = stop at *
  calc (text.take place).drop start ++ (text.take stop).drop place
      = ((text.take stop).drop start).take (place - start) ++
          ((text.take stop).drop start).drop (place - start) := by
        rw [List.drop_drop, Nat.add_sub_cancel' hstart, ← List.drop_take, List.take_take,
          Nat.min_eq_left hstop]
    _ = (text.take stop).drop start := List.take_append_drop _ _

/-- Snippets of adjoining ranges make up that of the whole range. -/
theorem snippet_append {text : List Char} {first middle last : Nat} (hfirst : first ≤ middle)
    (hlast : middle ≤ last) (hin : middle ≤ unitCount text) :
    ∃ left right, snippet text (some first) (some middle) = some left ∧
      snippet text (some middle) (some last) = some right ∧
      snippet text (some first) (some last) = some (left ++ right) := by
  have hstart : first ≤ unitCount text := Nat.le_trans hfirst hin
  refine ⟨charsWithin first middle 0 text, charsWithin middle last 0 text, ?_, ?_, ?_⟩
  · rw [snippet_eq, if_pos ⟨hfirst, hstart⟩]
  · rw [snippet_eq, if_pos ⟨hlast, hin⟩]
  · rw [snippet_eq, if_pos ⟨Nat.le_trans hfirst hlast, hstart⟩,
      charsWithin_append hfirst hlast]

/-- **Snippets are exact.** There is a snippet exactly when its range is in order and does not start
past the end of the text, and then the bytes of the text can be cut at both ends of the range: what
stands between are the characters that start in the range, in their order.  Two adjoining snippets
make up the snippet of both ranges. -/
theorem snippet_exact (source : String) (first last : Nat) :
    let text := source.toList
    ((snippet text (some first) (some last)).isSome = true ↔
      first ≤ last ∧ first ≤ unitCount text) ∧
    ((byteRange source first last).isSome = true ↔ first ≤ last ∧ first ≤ unitCount text) ∧
    (∀ cut, snippet text (some first) (some last) = some cut →
      cut = (text.zipIdx.filter fun entry => first ≤ unitCount (text.take entry.2) ∧
        unitCount (text.take entry.2) < last).map Prod.fst ∧
      ∃ start stop, byteRange source first last = some (start, stop) ∧
        Slices source start stop (String.ofList cut)) ∧
    ∀ middle, first ≤ middle → middle ≤ last → middle ≤ unitCount text →
      ∃ left right, snippet text (some first) (some middle) = some left ∧
        snippet text (some middle) (some last) = some right ∧
        snippet text (some first) (some last) = some (left ++ right) := by
  intro text
  refine ⟨?_, ?_, fun cut hcut => ⟨?_, byteRange_slices hcut⟩, fun middle => snippet_append⟩
  · rw [snippet_eq]
    simp
  · -- octets are there under the same condition as characters
    rw [byteRange_eq]
    simp [text]
  · rw [snippet_eq, Option.ite_none_right_eq_some, Option.some.injEq] at hcut
    rw [← hcut.2, charsWithin_eq_filter]
    simp only [Nat.zero_add]

/-- An offset inside a pair of units moves to the next character, and the end is clamped. -/
example : snippet [Char.ofNat 0x1f600, 'a'] (some 1) (some 9) = some ['a'] := by decide

end TreeOutline
