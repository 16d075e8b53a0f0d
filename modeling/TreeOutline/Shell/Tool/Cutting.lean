import TreeOutline.Shell.Tool.Basic
import TreeOutline.Steps

namespace TreeOutline

/-!
# Parts and pieces of lines

* `Shell.readRanges` — a list of positions as ranges; `Shell.RangeFault` — why it cannot be read.
  Ranges that are read do not overlap (`Shell.separated_of_readRanges`).
* `Shell.cut` — parts of each line: what is at the positions of the ranges, once and in order
  (`Shell.Separated.flatMap_take`).
* `Shell.fold` — lines in pieces, with nothing but ends of lines added
  (`Shell.Folding.filter_text`).
-/

namespace Shell

/-! ### Ranges of positions -/

/-- Positions from one on up to another one, or without an end. -/
structure PositionRange where
  first : Nat
  last : Option Nat
deriving DecidableEq, Repr

/-- Whether a position is in a range. -/
def PositionRange.covers (range : PositionRange) (position : Nat) : Bool :=
  range.first ≤ position && range.last.all (position ≤ ·)

/-- A range covers what lies between its ends, as far as it has them. -/
theorem PositionRange.covers_iff {range : PositionRange} {position : Nat} :
    range.covers position = true ↔
      range.first ≤ position ∧ ∀ last, range.last = some last → position ≤ last := by
  simp [covers, Option.all_eq_true]

/-- Positions are counted from one, and a range ends behind its beginning. -/
def PositionRange.Sound (range : PositionRange) : Prop :=
  1 ≤ range.first ∧ ∀ last, range.last = some last → range.first ≤ last

/-- Why a list of positions cannot be read. -/
inductive RangeFault where
  | zero
  | noEnds
  | tooManyDashes
  | descending
  | badLetter (text : String)
deriving DecidableEq, Repr

/-- The wording of a fault, in a list of fields or of positions in a line. -/
def RangeFault.message (fields : Bool) : RangeFault → String
  | .zero =>
    if fields then "fields are numbered from 1"
    else "byte/character positions are numbered from 1"
  | .noEnds => "invalid range with no endpoint: -"
  | .tooManyDashes =>
    if fields then "invalid field range" else "invalid byte or character range"
  | .descending => "invalid decreasing range"
  | .badLetter text =>
    (if fields then "invalid field value '" else "invalid byte/character position '") ++ text ++ "'"

/-- What has been read of one range: the number in front of a dash and the one behind it. -/
structure RangeSoFar where
  low : Option Nat
  dash : Bool
  high : Option Nat

/-- A range that has been read up to its end. -/
def RangeSoFar.finish (r : RangeSoFar) : Except RangeFault PositionRange :=
  match r.low, r.dash, r.high with
  | none, true, none => .error .noEnds
  | low, true, none => .ok ⟨low.getD 1, none⟩
  | low, true, some high =>
    if high < low.getD 1 then .error .descending else .ok ⟨low.getD 1, some high⟩
  | low, false, _ => if low.getD 0 = 0 then .error .zero else .ok ⟨low.getD 0, low⟩

/-- Reads ranges between commas or blanks. -/
def readRangesFrom : (fuel : Nat) → RangeSoFar → List Char →
    Except RangeFault (List PositionRange)
  | 0, _, _ => .ok []
  | fuel + 1, r, chars => do
    match chars with
    | [] => do
      let range ← r.finish
      .ok [range]
    | c :: rest =>
      if c = '-' then
        if r.dash then .error .tooManyDashes
        else if r.low = some 0 then .error .zero
        else readRangesFrom fuel { r with dash := true } rest
      else if c = ',' ∨ c = ' ' ∨ c = '\t' then do
        let range ← r.finish
        let more ← readRangesFrom fuel ⟨none, false, none⟩ rest
        .ok (range :: more)
      else if c.isDigit then
        let (n, rest) := leadingNat (c :: rest)
        readRangesFrom fuel (if r.dash then { r with high := n } else { r with low := n }) rest
      else .error (.badLetter (String.ofList (c :: rest)))

/-- A range that is read is sound, if no zero stands in front of its dash. -/
theorem RangeSoFar.sound_of_finish {r : RangeSoFar} {range : PositionRange}
    (hdash : r.dash = true → r.low ≠ some 0) (hread : r.finish = .ok range) : range.Sound := by
  rcases r with ⟨low, _ | _, high⟩
  · have hread : (if low.getD 0 = 0 then .error .zero else .ok ⟨low.getD 0, low⟩ :
        Except RangeFault PositionRange) = .ok range := by
      cases low <;> exact hread
    split at hread
    next => exact absurd hread (by simp)
    next hpos =>
      cases hread
      refine ⟨Nat.pos_of_ne_zero hpos, fun last hlast => ?_⟩
      dsimp only at hlast ⊢
      rw [hlast]
      exact Nat.le_refl last
  · have hlow : 1 ≤ low.getD 1 := by
      cases low with
      | none => exact Nat.le_refl 1
      | some low => exact Nat.pos_of_ne_zero fun hzero : low = 0 => hdash rfl (hzero ▸ rfl)
    cases high with
    | none =>
      cases low with
      | none => exact absurd hread (by simp [finish])
      | some low =>
        cases hread
        exact ⟨hlow, fun last hlast => absurd hlast (by simp)⟩
    | some high =>
      have hread : (if high < low.getD 1 then .error .descending
          else .ok ⟨low.getD 1, some high⟩ : Except RangeFault PositionRange) = .ok range := by
        cases low <;> exact hread
      split at hread
      next => exact absurd hread (by simp)
      next hle =>
        cases hread
        exact ⟨hlow, fun last hlast => Option.some.inj hlast ▸ Nat.not_lt.1 hle⟩

/-- All ranges that are read are sound. -/
theorem sound_of_mem_readRangesFrom {fuel : Nat} {r : RangeSoFar} {chars : List Char}
    {ranges : List PositionRange} (hdash : r.dash = true → r.low ≠ some 0)
    (hread : readRangesFrom fuel r chars = .ok ranges) : ∀ range ∈ ranges, range.Sound := by
  fun_induction readRangesFrom fuel r chars generalizing ranges with
  | case1 => cases hread; exact fun range hrange => absurd hrange List.not_mem_nil
  | case2 fuel r =>
    obtain ⟨range, hfinish, hread⟩ := exists_of_bind_eq_ok hread
    cases hread
    intro other hother
    rw [List.mem_singleton.1 hother]
    exact RangeSoFar.sound_of_finish hdash hfinish
  | case3 => exact absurd hread (by simp)
  | case4 => exact absurd hread (by simp)
  | case5 fuel r rest hr hlow ih => exact ih (fun _ => hlow) hread
  | case6 fuel r c rest hc hend ih =>
    obtain ⟨range, hfinish, hread⟩ := exists_of_bind_eq_ok hread
    obtain ⟨more, hmore, hread⟩ := exists_of_bind_eq_ok hread
    cases hread
    intro other hother
    rcases List.mem_cons.1 hother with rfl | hother
    · exact RangeSoFar.sound_of_finish hdash hfinish
    · exact ih (fun hr => absurd hr (by simp)) hmore other hother
  | case7 fuel r c rest hc hend hdigit n left hn ih =>
    refine ih (fun hr => ?_) hread
    split at hr
    next hdashed => simpa [hdashed] using hdash hdashed
    next hplain => exact absurd hr hplain
  | case8 => exact absurd hread (by simp)

/-- A range up to the end of another one that begins in it, or its own. -/
def PositionRange.joined (range next : PositionRange) : PositionRange where
  first := range.first
  last := match range.last, next.last with
    | some a, some b => some (max a b)
    | _, _ => none

/-- Two ranges that meet have the positions of either of them together. -/
theorem PositionRange.covers_joined {range next : PositionRange} (hle : range.first ≤ next.first)
    (hmeet : ¬ range.last.any (· < next.first) = true) (position : Nat) :
    (range.joined next).covers position = (range.covers position || next.covers position) := by
  rw [Bool.eq_iff_iff, Bool.or_eq_true]
  simp only [covers_iff, joined]
  rcases range with ⟨first, _ | last⟩ <;> rcases next with ⟨first', _ | last'⟩ <;>
    simp at hle hmeet ⊢ <;> omega

/-- Joins ranges that overlap; they are in the order of their first positions. -/
def joinRanges : List PositionRange → List PositionRange
  | range :: next :: rest =>
    if range.last.any (· < next.first) then range :: joinRanges (next :: rest)
    else joinRanges (range.joined next :: rest)
  | ranges => ranges
termination_by ranges => ranges.length

/-- What is joined to a sound range leaves it sound. -/
theorem PositionRange.Sound.joined {range next : PositionRange} (h : range.Sound) :
    (range.joined next).Sound := by
  refine ⟨h.1, fun last hlast => ?_⟩
  rw [PositionRange.joined] at hlast
  dsimp only at hlast
  split at hlast
  next a b ha hb =>
    cases hlast
    exact Nat.le_trans (h.2 a ha) (Nat.le_max_left a b)
  next => exact absurd hlast (by simp)

/-- **Joining ranges keeps their positions.** -/
theorem any_joinRanges {ranges : List PositionRange}
    (hsorted : ranges.Pairwise fun a b => a.first ≤ b.first) (position : Nat) :
    (joinRanges ranges).any (·.covers position) = ranges.any (·.covers position) := by
  fun_induction joinRanges ranges with
  | case1 range next rest hapart ih =>
    rw [List.any_cons, ih (List.pairwise_cons.1 hsorted).2, List.any_cons (a := range)]
  | case2 range next rest hmeet ih =>
    simp only [List.pairwise_cons, List.mem_cons, forall_eq_or_imp] at hsorted ih
    obtain ⟨⟨hnext, hrange⟩, -, hrest⟩ := hsorted
    rw [ih ⟨hrange, hrest⟩, List.any_cons, PositionRange.covers_joined hnext hmeet]
    simp [Bool.or_assoc]
  | case3 ranges hfew => rfl

/-- Ranges are in order and do not overlap, from a position on. -/
def Separated : (from' : Nat) → List PositionRange → Prop
  | _, [] => True
  | from', range :: rest =>
    from' ≤ range.first ∧ match range.last with
      | some last => range.first ≤ last ∧ Separated (last + 1) rest
      | none => rest = []

/-- **Joined ranges do not overlap.** -/
theorem separated_joinRanges {ranges : List PositionRange} {from' : Nat}
    (hsorted : ranges.Pairwise fun a b => a.first ≤ b.first)
    (hsound : ∀ range ∈ ranges, range.Sound) (hfrom : ∀ range ∈ ranges, from' ≤ range.first) :
    Separated from' (joinRanges ranges) := by
  fun_induction joinRanges ranges generalizing from' with
  | case1 range next rest hapart ih =>
    obtain ⟨last, hlast, hlt⟩ : ∃ last, range.last = some last ∧ last < next.first := by
      simpa [Option.any_eq_true] using hapart
    have hrest := (List.pairwise_cons.1 hsorted).2
    refine ⟨hfrom range List.mem_cons_self, ?_⟩
    rw [hlast]
    refine ⟨(hsound range List.mem_cons_self).2 last hlast, ih hrest ?_ fun other hother => ?_⟩
    · exact fun other hother => hsound other (List.mem_cons_of_mem range hother)
    · rcases List.mem_cons.1 hother with rfl | hother
      · exact hlt
      · exact Nat.le_trans hlt ((List.pairwise_cons.1 hrest).1 other hother)
  | case2 range next rest hmeet ih =>
    simp only [List.pairwise_cons, List.mem_cons, forall_eq_or_imp] at hsorted hsound hfrom ih
    obtain ⟨⟨-, hrange⟩, -, hrest⟩ := hsorted
    exact ih ⟨hrange, hrest⟩ ⟨hsound.1.joined, hsound.2.2⟩ ⟨hfrom.1, hfrom.2.2⟩
  | case3 ranges hfew =>
    match ranges, hfew with
    | [], _ => exact trivial
    | [range], _ =>
      refine ⟨hfrom range List.mem_cons_self, ?_⟩
      split
      next last hlast => exact ⟨(hsound range List.mem_cons_self).2 last hlast, trivial⟩
      next => rfl
    | range :: next :: rest, hfew => exact absurd rfl (hfew range next rest)

/-- Reads a list of positions as ranges that are in order and do not overlap. -/
def readRanges (text : String) : Except RangeFault (List PositionRange) := do
  let ranges ← readRangesFrom (text.length + 2) ⟨none, false, none⟩ text.toList
  .ok (joinRanges (ranges.mergeSort fun a b => a.first ≤ b.first))

/-- **Ranges that are read** are in order and do not overlap. -/
theorem separated_of_readRanges {text : String} {ranges : List PositionRange}
    (hread : readRanges text = .ok ranges) : Separated 1 ranges := by
  obtain ⟨found, hfrom, hread⟩ := exists_of_bind_eq_ok hread
  cases hread
  have hsound := sound_of_mem_readRangesFrom (by simp) hfrom
  have hsorted : (found.mergeSort fun a b => a.first ≤ b.first).Pairwise
      fun a b => a.first ≤ b.first := by
    have h : (found.mergeSort fun a b => a.first ≤ b.first).Pairwise
        fun a b => decide (a.first ≤ b.first) = true :=
      List.pairwise_mergeSort (by simp; omega) (by simp; omega) found
    simpa using h
  refine separated_joinRanges hsorted (fun range hrange => ?_) fun range hrange => ?_
  · exact hsound range (List.mem_mergeSort.1 hrange)
  · exact (hsound range (List.mem_mergeSort.1 hrange)).1

/-- The ranges of all other positions, from one on. -/
def otherRanges : (from' : Nat) → List PositionRange → List PositionRange
  | from', [] => [⟨from', none⟩]
  | from', range :: rest =>
    let gap := if from' < range.first then [⟨from', some (range.first - 1)⟩] else []
    match range.last with
    | some last => gap ++ otherRanges (last + 1) rest
    | none => gap

/-- Separated ranges have no position in front of them. -/
theorem Separated.any_eq_false {from' position : Nat} {ranges : List PositionRange}
    (hranges : Separated from' ranges) (hlt : position < from') :
    ranges.any (·.covers position) = false := by
  induction ranges generalizing from' with
  | nil => rfl
  | cons range rest ih =>
    obtain ⟨hfirst, hrest⟩ := hranges
    have hrange : range.covers position = false := by
      rw [PositionRange.covers, decide_eq_false (by omega), Bool.false_and]
    rw [List.any_cons, hrange, Bool.false_or]
    split at hrest
    next last hlast => exact ih hrest.2 (by omega)
    next => rw [hrest]; rfl

/-- A gap has the positions in front of a range. -/
theorem any_gap (from' first position : Nat) :
    (if from' < first then [(⟨from', some (first - 1)⟩ : PositionRange)] else []).any
      (·.covers position) = (from' ≤ position && position < first) := by
  rw [Bool.eq_iff_iff]
  split <;> simp [PositionRange.covers] <;> omega

/-- **The other positions** are those from one on that no range has. -/
theorem any_otherRanges {from' : Nat} {ranges : List PositionRange}
    (hranges : Separated from' ranges) (position : Nat) :
    (otherRanges from' ranges).any (·.covers position) =
      (from' ≤ position && !ranges.any (·.covers position)) := by
  induction ranges generalizing from' with
  | nil => simp [otherRanges, PositionRange.covers]
  | cons range rest ih =>
    obtain ⟨hfirst, hrest⟩ := hranges
    rcases range with ⟨first, _ | last⟩
    · simp only at hrest
      subst hrest
      simp only [otherRanges, any_gap, List.any_cons, List.any_nil]
      rw [Bool.eq_iff_iff]
      simp [PositionRange.covers]
    · simp only [otherRanges, List.any_append, any_gap, ih hrest.2, List.any_cons]
      have hcovers : PositionRange.covers ⟨first, some last⟩ position =
          (first ≤ position && position ≤ last) := rfl
      rw [hcovers, Bool.eq_iff_iff]
      obtain ⟨hle, hrest⟩ := hrest
      dsimp only at hfirst hle
      by_cases hlast : position ≤ last
      · rw [hrest.any_eq_false (Nat.lt_succ_of_le hlast)]
        simp
        omega
      · cases rest.any (·.covers position) <;> simp <;> omega

/-- The items in a range. -/
def PositionRange.take {α : Type} (range : PositionRange) (items : List α) : List α :=
  let items := match range.last with
    | some last => items.take last
    | none => items
  items.drop (range.first - 1)

/-- The items of a range are those at the positions that it covers. -/
theorem filter_covers {α : Type} (range : PositionRange) (from' : Nat) (items : List α) :
    ((items.zipIdx from').filter fun item => range.covers item.2).map (·.1) =
      (match range.last with
        | some last => items.take (last + 1 - from')
        | none => items).drop (range.first - from') := by
  induction items generalizing from' with
  | nil => cases range.last <;> simp
  | cons item items ih =>
    have ih := ih (from' + 1)
    rw [List.zipIdx_cons, List.filter_cons]
    by_cases hbefore : from' < range.first
    · -- the first item stands in front of the range
      have hcovers : range.covers from' = false := by
        simp [PositionRange.covers, Nat.not_le.2 hbefore]
      rw [hcovers, if_neg (by simp), ih, show range.first - from' = range.first - (from' + 1) + 1 by
        omega]
      cases range.last with
      | none => rfl
      | some last =>
        dsimp only
        by_cases hend : from' ≤ last
        · rw [show last + 1 - from' = last + 1 - (from' + 1) + 1 by omega]
          rfl
        · simp [show last + 1 - from' = 0 by omega, show last + 1 - (from' + 1) = 0 by omega]
    · rw [show range.first - (from' + 1) = 0 by omega, List.drop_zero] at ih
      rw [show range.first - from' = 0 by omega, List.drop_zero]
      cases hlast : range.last with
      | none =>
        have hcovers : range.covers from' = true := by
          simp [PositionRange.covers, hlast, Nat.not_lt.1 hbefore]
        rw [hlast] at ih
        rw [hcovers, if_pos rfl, List.map_cons, ih]
      | some last =>
        rw [hlast] at ih
        dsimp only at ih ⊢
        by_cases hend : from' ≤ last
        · have hcovers : range.covers from' = true := by
            simp [PositionRange.covers, hlast, Nat.not_lt.1 hbefore, hend]
          rw [hcovers, if_pos rfl, List.map_cons, ih,
            show last + 1 - from' = last + 1 - (from' + 1) + 1 by omega, List.take_succ_cons]
        · have hcovers : range.covers from' = false := by
            simp [PositionRange.covers, hlast, hend]
          rw [hcovers, if_neg (by simp), ih, show last + 1 - from' = 0 by omega,
            show last + 1 - (from' + 1) = 0 by omega, List.take_zero, List.take_zero]

/-- Items that come first among those in order are found first. -/
theorem filter_or_of_pairwise {β : Type} {items : List β} {r : β → β → Prop} {p q : β → Bool}
    (hitems : items.Pairwise r) (happart : ∀ a, q a = true → p a = false)
    (hafter : ∀ a b, r a b → q a = true → p b = false) :
    (items.filter fun item => p item || q item) = items.filter p ++ items.filter q := by
  induction items with
  | nil => rfl
  | cons item items ih =>
    obtain ⟨hitem, hitems⟩ := List.pairwise_cons.1 hitems
    have ih := ih hitems
    by_cases hq : q item = true
    · -- nothing from here on can satisfy `p`
      have hrest : items.filter p = [] := by
        refine List.filter_eq_nil_iff.2 fun other hother => ?_
        simp [hafter item other (hitem other hother) hq]
      rw [hrest, List.nil_append] at ih
      simp [happart item hq, hq, hrest, ih]
    · by_cases hp : p item = true <;> simp [hp, hq, ih]

/-- **Separated ranges take the items at their positions**, each of them once and in order. -/
theorem Separated.flatMap_take {α : Type} {from' : Nat} {ranges : List PositionRange}
    (hranges : Separated from' ranges) (hfrom : 1 ≤ from') (items : List α) :
    ranges.flatMap (·.take items) =
      ((items.zipIdx 1).filter fun item => ranges.any (·.covers item.2)).map (·.1) := by
  induction ranges generalizing from' with
  | nil => simp
  | cons range rest ih =>
    obtain ⟨hfirst, hrest⟩ := hranges
    have htake : range.take items =
        ((items.zipIdx 1).filter fun item => range.covers item.2).map (·.1) := by
      rw [filter_covers, PositionRange.take]
      cases range.last <;> rfl
    have hitems : (items.zipIdx 1).Pairwise fun a b => a.2 < b.2 := by
      refine List.pairwise_map.1 ?_
      rw [List.zipIdx_map_snd]
      exact List.pairwise_lt_range'
    simp only [List.flatMap_cons, List.any_cons]
    rw [htake]
    split at hrest
    next last hlast =>
      have hbehind (i j : Nat) (hle : i ≤ j) (hi : rest.any (·.covers i) = true) :
          range.covers j = false := by
        rw [Bool.eq_false_iff]
        intro hj
        have hj := (PositionRange.covers_iff.1 hj).2 last hlast
        rw [hrest.2.any_eq_false (by omega)] at hi
        exact absurd hi (by simp)
      rw [ih hrest.2 (by omega), ← List.map_append, ← filter_or_of_pairwise hitems]
      · exact fun item => hbehind item.2 item.2 (Nat.le_refl _)
      · exact fun a b hlt => hbehind a.2 b.2 (Nat.le_of_lt hlt)
    next =>
      subst hrest
      simp

/-! ### Parts of lines -/

/-- Keeps parts of each line: `-c` and `-b` characters, `-f` fields between the characters that
`-d` names.  A line without such a character is kept, unless `-s` is given. -/
def cut (task : Task) : Report :=
  let table : OptionTable := ⟨"snCz", "cbfdo", [("characters", 'c'), ("bytes", 'b'),
    ("fields", 'f'), ("delimiter", 'd'), ("only-delimited", 's'), ("complement", 'C'),
    ("output-delimiter", 'o'), ("zero-terminated", 'z')]⟩
  task.withOptions "cut" 1 table fun options paths =>
    let misused (text : String) : Report := .misused task "cut" 1 text
    let delimiter := (optionValue? options 'd').map String.toList
    let lists := options.filter fun (letter, _) => letter ∈ ['c', 'b', 'f']
    match lists, delimiter with
    | _ :: _ :: _, _ => misused "only one list may be specified"
    | [], _ => misused "you must specify a list of bytes, characters, or fields"
    | _, some (_ :: _ :: _) => misused "the delimiter must be a single character"
    | [(letter, list)], delimiter =>
      let byFields := letter == 'f'
      if ¬ byFields ∧ delimiter.isSome then
        misused "an input delimiter may be specified only when operating on fields"
      else if ¬ byFields ∧ hasOption options 's' then
        misused "suppressing non-delimited lines makes sense\n\tonly when operating on fields"
      else
        match readRanges list with
        | .error fault => misused (fault.message byFields)
        | .ok ranges =>
          let separator := (delimiter.map fun d => d.headD '\x00').getD '\t'
          let joint := (optionValue? options 'o').map String.toList
          let mark := if hasOption options 'z' then '\x00' else '\n'
          let ranges := if hasOption options 'C' then otherRanges 1 ranges else ranges
          let cutLine (line : List Char) : List (List Char) :=
            if ¬ byFields then
              let parts := (ranges.map (·.take line)).filter (!·.isEmpty)
              [(joint.getD []).intercalate parts]
            else
              let fields := splitAtChar separator line
              if fields.length ≤ 1 then (if hasOption options 's' then [] else [line])
              else [(joint.getD [separator]).intercalate (ranges.flatMap (·.take fields))]
          task.throughEach paths (Task.missing "cut") fun text =>
            joinRecords mark ((plainRecords mark text).flatMap cutLine)

/-! ### Lines in pieces -/

/-- The column behind a character, in bytes or as a terminal shows it. -/
def columnAfter (bytes : Bool) (column : Nat) (c : Char) : Nat :=
  if bytes then column + 1
  else if c = '\x08' then column - 1
  else if c = '\r' then 0
  else if c = '\t' then column + 8 - column % 8
  else column + 1

/-- How lines are broken: at what width, whether it is counted in bytes, and whether pieces end at
blanks where they can. -/
structure Folding where
  width : Nat
  bytes : Bool
  atBlanks : Bool

namespace Folding

/-- Adds a character to a piece, given by its characters, latest first.  What is complete is given
too, latest first, with the ends of pieces. -/
def add (f : Folding) : (fuel : Nat) → (piece : List Char) → (column : Nat) → Char →
    List Char × List Char × Nat
  | 0, piece, column, c => ([], c :: piece, columnAfter f.bytes column c)
  | fuel + 1, piece, column, c =>
    let next := columnAfter f.bytes column c
    if next ≤ f.width ∨ piece.isEmpty then ([], c :: piece, next)
    else
      let tail := piece.takeWhile fun c => c != ' ' && c != '\t'
      let front := piece.drop tail.length
      let (done, piece) := if f.atBlanks ∧ ¬ front.isEmpty then (front, tail) else (piece, [])
      let column := piece.reverse.foldl (columnAfter f.bytes) 0
      let (more, piece, column) := f.add fuel piece column c
      (more ++ '\n' :: done, piece, column)

/-- Only ends of pieces are added to what has been read. -/
theorem filter_add (f : Folding) (fuel : Nat) (piece : List Char) (column : Nat) (c : Char) :
    ((f.add fuel piece column c).2.1 ++ (f.add fuel piece column c).1).filter (· ≠ '\n') =
      (c :: piece).filter (· ≠ '\n') := by
  induction fuel generalizing piece column with
  | zero => simp [add]
  | succ fuel ih =>
    rw [add]
    split
    next => simp
    next =>
      dsimp only
      have hsplit : (piece.takeWhile fun c => c != ' ' && c != '\t') ++
          piece.drop (piece.takeWhile fun c => c != ' ' && c != '\t').length = piece := by
        exact List.prefix_iff_eq_append.1 (List.takeWhile_prefix _)
      have hadd (done rest : List Char) (column : Nat) (h : rest ++ done = piece) :
          ((f.add fuel rest column c).2.1 ++ ((f.add fuel rest column c).1 ++ '\n' :: done)).filter
            (· ≠ '\n') = (c :: piece).filter (· ≠ '\n') := by
        rw [← List.append_assoc, List.filter_append, ih, ← h]
        simp [List.filter_cons]
        split <;> rfl
      split
      · exact hadd _ _ _ hsplit
      · exact hadd _ _ _ (List.nil_append _)

/-- Goes on by one character of a text: what is complete, the piece behind it, and its column. -/
def step (f : Folding) : List Char × List Char × Nat → Char → List Char × List Char × Nat
  | (done, piece, column), c =>
    if c = '\n' then ('\n' :: piece ++ done, [], 0)
    else
      let (more, piece, column) := f.add (piece.length + 2) piece column c
      (more ++ done, piece, column)

/-- A text with its lines in pieces. -/
def text (f : Folding) (text : List Char) : List Char :=
  let (done, piece, _) := text.foldl f.step ([], [], 0)
  (piece ++ done).reverse

/-- A step puts the next character, and else only ends of lines, in front of what there is. -/
theorem filter_step (f : Folding) (state : List Char × List Char × Nat) (c : Char) :
    ((f.step state c).2.1 ++ (f.step state c).1).filter (· ≠ '\n') =
      (c :: (state.2.1 ++ state.1)).filter (· ≠ '\n') := by
  obtain ⟨done, piece, column⟩ := state
  rw [step]
  split
  next hend => simp [hend]
  next =>
    dsimp only
    rw [← List.append_assoc, List.filter_append, filter_add, ← List.filter_append, List.cons_append]

/-- **Breaking lines adds nothing but ends of lines.** -/
theorem filter_text (f : Folding) (text : List Char) :
    (f.text text).filter (· ≠ '\n') = text.filter (· ≠ '\n') := by
  have hfold (text : List Char) (state : List Char × List Char × Nat) :
      ((text.foldl f.step state).2.1 ++ (text.foldl f.step state).1).filter (· ≠ '\n') =
        (text.reverse ++ (state.2.1 ++ state.1)).filter (· ≠ '\n') := by
    induction text generalizing state with
    | nil => rfl
    | cons c text ih =>
      rw [List.foldl_cons, ih, List.filter_append, filter_step, ← List.filter_append,
        List.reverse_cons, List.append_assoc, List.singleton_append]
  rw [Folding.text, List.filter_reverse, hfold, List.append_nil, List.append_nil,
    List.filter_reverse, List.reverse_reverse]

end Folding

/-- Breaks lines that are longer than `-w` asks for, with `-s` at blanks; with `-b` in bytes. -/
def fold (task : Task) : Report :=
  let table : OptionTable := ⟨"sb", "w#", [("width", 'w'), ("spaces", 's'), ("bytes", 'b')]⟩
  task.withOptions "fold" 1 table fun options paths =>
    let value := ((lastOption? options ['w', '#']).map (·.2)).getD "80"
    let misused (reason : String) : Report :=
      .complaining task 1 s!"fold: invalid number of columns: '{value}'{reason}"
    match natural? value with
    | none => misused ""
    | some 0 => misused ": Numerical result out of range"
    | some width =>
      if IntRange.unsigned64.greatest < width then misused QuantityFault.tooLarge.suffix
      else
        let folding : Folding := ⟨width, hasOption options 'b', hasOption options 's'⟩
        task.throughEach paths (Task.missing "fold") folding.text

end Shell

end TreeOutline
