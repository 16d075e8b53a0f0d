import Mathlib.Data.List.Chain
import TreeOutline.Proofs.Text.Lines
import TreeOutline.Proofs.Text.Units
import TreeOutline.Proofs.Workbench.ActiveMarks
import TreeOutline.Screen.Highlight

namespace TreeOutline

/-!
# Marking and snippets

The source pane marks characters line by line, a snippet is cut out of the text as a whole; both
follow the same offsets.

* `markedChars` — the characters of a line, each with whether it is marked.
* `consMarked_wellRun`, `markedChars_consMarked` — a character in front of a line keeps its runs
  apart and puts itself in front of its characters.
* `charAt_markedLinesFrom` — what stands at each place, and which offset decides on its mark.
* `markedText_markedLinesFrom` — the characters that one span marks.
* `Span.covers_iff` — the snippet of a span covers the characters whose offsets it contains.
* `Model.mem_activeSpans_iff`, `Model.marked_iff` — which places of the source pane are marked.
* `marked_text_is_snippets` — so marking is lossless, and what is marked are the snippets.
-/

/-- The characters of a line, each with whether it is marked. -/
def markedChars (line : List MarkedRun) : List (Char × Bool) :=
  line.flatMap fun run => run.text.map (·, run.marked)

/-- The marked characters of some lines. -/
def markedText (lines : List (List MarkedRun)) : List Char :=
  lines.flatMap fun line => ((markedChars line).filter (·.2)).map Prod.fst

/-- The runs of a line are not empty, and each has another mark than the one before. -/
structure WellRun (line : List MarkedRun) : Prop where
  filled : ∀ run ∈ line, run.text ≠ []
  alternates : line.IsChain fun run next => run.marked ≠ next.marked

/-! ### One more character -/

/-- Without its marks a line has the characters of its runs. -/
theorem map_fst_markedChars (line : List MarkedRun) :
    (markedChars line).map Prod.fst = line.flatMap (·.text) := by
  unfold markedChars
  rw [List.map_flatMap]
  simp [Function.comp_def]

/-- A character marked like the first run joins it. -/
theorem consMarked_same (c : Char) (run : MarkedRun) (rest : List MarkedRun) :
    consMarked c run.marked (run :: rest) = ⟨c :: run.text, run.marked⟩ :: rest := if_pos rfl

/-- A character marked otherwise begins a run of its own. -/
theorem consMarked_other {marked : Bool} {run : MarkedRun} (h : run.marked ≠ marked) (c : Char)
    (rest : List MarkedRun) :
    consMarked c marked (run :: rest) = ⟨[c], marked⟩ :: run :: rest := if_neg h

/-- Either way the characters are those from before with the new one in front. -/
theorem markedChars_consMarked (c : Char) (marked : Bool) (line : List MarkedRun) :
    markedChars (consMarked c marked line) = (c, marked) :: markedChars line := by
  cases line with
  | nil => rfl
  | cons run rest =>
    -- the character joins the first run or makes a new one; read off, this is the same
    by_cases hsame : run.marked = marked
    · subst hsame
      rw [consMarked_same]
      rfl
    · rw [consMarked_other hsame]
      rfl

/-- Runs stay as long as they can be. -/
theorem consMarked_wellRun (c : Char) (marked : Bool) {line : List MarkedRun} (h : WellRun line) :
    WellRun (consMarked c marked line) := by
  cases line with
  | nil => exact ⟨by simp [consMarked], by simp [consMarked]⟩
  | cons run rest =>
    obtain ⟨hfilled, halternates⟩ := h
    by_cases hsame : run.marked = marked
    · subst hsame
      rw [consMarked_same]
      refine ⟨fun other hother => ?_, ?_⟩
      · rcases List.mem_cons.1 hother with rfl | hrest
        · exact List.cons_ne_nil _ _
        · exact hfilled other (List.mem_cons_of_mem _ hrest)
      · -- only the text of the first run is another
        cases rest with
        | nil => exact List.isChain_singleton _
        | cons next rest =>
          rw [List.isChain_cons_cons] at halternates ⊢
          exact halternates
    · rw [consMarked_other hsame]
      refine ⟨fun other hother => ?_, List.isChain_cons_cons.2 ⟨Ne.symm hsame, halternates⟩⟩
      rcases List.mem_cons.1 hother with rfl | hrest
      · exact List.cons_ne_nil _ _
      · exact hfilled other hrest

variable {spans : List Span} {offset : Nat}

/-- There is always a first line. -/
theorem exists_markedLinesFrom_eq_cons (spans : List Span) (offset : Nat) (text : List Char) :
    ∃ line lines, markedLinesFrom spans offset text = line :: lines := by
  cases text with
  | nil => exact ⟨[], [], rfl⟩
  | cons c text =>
    rw [markedLinesFrom]
    by_cases hc : c = '\n'
    · rw [if_pos hc]
      exact ⟨_, _, rfl⟩
    · rw [if_neg hc]
      -- no call gives the empty list, yet the definition has to say what would follow
      cases markedLinesFrom spans (offset + unitWidth c) text with
      | nil => exact ⟨_, _, rfl⟩
      | cons line lines => exact ⟨_, _, rfl⟩

/-- An end of line begins a new line in front of those of the rest. -/
theorem markedLinesFrom_newline (text : List Char) :
    markedLinesFrom spans offset ('\n' :: text) =
      [] :: markedLinesFrom spans (offset + unitWidth '\n') text := rfl

/-- Any other character goes in front of the first line of the rest. -/
theorem markedLinesFrom_cons {c : Char} (hc : c ≠ '\n') {text : List Char} {line : List MarkedRun}
    {lines : List (List MarkedRun)}
    (h : markedLinesFrom spans (offset + unitWidth c) text = line :: lines) :
    markedLinesFrom spans offset (c :: text) =
      consMarked c (spans.any (·.contains offset)) line :: lines := by
  rw [markedLinesFrom, if_neg hc, h]

/-! ### All characters -/

/-- **Lossless.** The runs of each line have its characters. -/
theorem map_text_markedLinesFrom (spans : List Span) (offset : Nat) (text : List Char) :
    (markedLinesFrom spans offset text).map (·.flatMap (·.text)) = splitLines text := by
  -- both functions go through the text alike; only one counts units on its way
  induction text generalizing offset with
  | nil => rfl
  | cons c text ih =>
    have hrest := ih (offset + unitWidth c)
    by_cases hc : c = '\n'
    · subst hc
      rw [markedLinesFrom_newline, splitLines_newline, List.map_cons, hrest]
      rfl
    · obtain ⟨line, lines, hlines⟩ :=
        exists_markedLinesFrom_eq_cons spans (offset + unitWidth c) text
      rw [hlines, List.map_cons] at hrest
      rw [markedLinesFrom_cons hc hlines, splitLines_cons hc hrest.symm, List.map_cons,
        ← map_fst_markedChars, markedChars_consMarked, List.map_cons, map_fst_markedChars]

/-- In each line runs are as long as they can be. -/
theorem wellRun_of_mem_markedLinesFrom {text : List Char} {line : List MarkedRun}
    (h : line ∈ markedLinesFrom spans offset text) : WellRun line := by
  have hempty : WellRun [] := ⟨by simp, by simp⟩
  induction text generalizing offset line with
  | nil =>
    rw [List.mem_singleton.1 h]
    exact hempty
  | cons c text ih =>
    by_cases hc : c = '\n'
    · subst hc
      rw [markedLinesFrom_newline] at h
      -- a line end leaves an empty line before the rest
      rcases List.mem_cons.1 h with rfl | hrest
      · exact hempty
      · exact ih hrest
    · obtain ⟨first, lines, hlines⟩ :=
        exists_markedLinesFrom_eq_cons spans (offset + unitWidth c) text
      have hwell : ∀ other ∈ first :: lines, WellRun other :=
        fun other hother => ih (hlines ▸ hother)
      rw [markedLinesFrom_cons hc hlines] at h
      rcases List.mem_cons.1 h with rfl | hrest
      · exact consMarked_wellRun c _ (hwell first List.mem_cons_self)
      · exact hwell line (List.mem_cons_of_mem _ hrest)

/-- How many UTF-16 units stand in front of a place. -/
def placeUnits (text : List Char) (row column : Nat) : Nat :=
  unitCount (text.take (placeIndex text row column))

/-- **Each place has its character, marked by the offset that it starts at.** -/
theorem charAt_markedLinesFrom (spans : List Span) (offset : Nat) (text : List Char)
    (row column : Nat) :
    charAt ((markedLinesFrom spans offset text).map markedChars) row column =
      (charAt (splitLines text) row column).map fun c =>
        (c, spans.any (·.contains (offset + placeUnits text row column))) := by
  induction text generalizing offset row column with
  | nil =>
    cases row with
    | zero => rfl
    | succ row => rfl
  | cons c text ih =>
    have hrest := ih (offset + unitWidth c)
    -- a place behind the first character is a place of the rest, that much further on
    have hshift : ∀ {place other : Nat}, placeIndex (c :: text) row column = place + 1 →
        other = unitCount (text.take place) →
        offset + placeUnits (c :: text) row column = offset + unitWidth c + other := by
      rintro place other hplace rfl
      rw [placeUnits, hplace, List.take_succ_cons, unitCount_cons, Nat.add_assoc]
    by_cases hc : c = '\n'
    · subst hc
      rw [markedLinesFrom_newline, splitLines_newline]
      cases row with
      | zero => rfl
      | succ row =>
        rw [hshift (placeIndex_newline text row column) rfl]
        exact hrest row column
    · obtain ⟨line, lines, hlines⟩ :=
        exists_markedLinesFrom_eq_cons spans (offset + unitWidth c) text
      obtain ⟨plain, plains, hplains⟩ := exists_splitLines_eq_cons text
      rw [markedLinesFrom_cons hc hlines, splitLines_cons hc hplains, List.map_cons,
        markedChars_consMarked]
      rw [hlines, hplains] at hrest
      cases row with
      | succ row =>
        rw [hshift (placeIndex_cons hc text row column) rfl]
        exact hrest (row + 1) column
      | zero =>
        cases column with
        | zero =>
          rw [placeUnits, placeIndex_zero]
          rfl
        | succ column =>
          rw [hshift (placeIndex_zero (c :: text) (column + 1)) rfl]
          have hplace := hrest 0 column
          rw [placeUnits, placeIndex_zero] at hplace
          exact hplace

/-- The second character takes two units; an offset inside it leaves it unmarked. -/
example : markedLines ['a', '😀', 'b'] [⟨2, 4⟩] = [[⟨['a', '😀'], false⟩, ⟨['b'], true⟩]] := by
  decide

/-- An offset is in some span where it lies between the ends of one. -/
theorem any_contains_iff {units : Nat} :
    spans.any (·.contains units) = true ↔
      ∃ span ∈ spans, span.first ≤ units ∧ units < span.last := by
  simp [Span.contains]

/-! ### One span -/

/-- **One span marks the characters of its range**, but for the line ends. -/
theorem markedText_markedLinesFrom (span : Span) (offset : Nat) (text : List Char) :
    markedText (markedLinesFrom [span] offset text) =
      (charsWithin span.first span.last offset text).filter (· ≠ '\n') := by
  induction text generalizing offset with
  | nil => rfl
  | cons c text ih =>
    have hrest := ih (offset + unitWidth c)
    have hmarked : [span].any (·.contains offset) = true ↔
        span.first ≤ offset ∧ offset < span.last := by
      rw [any_contains_iff]
      simp
    rw [charsWithin]
    by_cases hc : c = '\n'
    · subst hc
      rw [markedLinesFrom_newline]
      -- a line end belongs to no line, whether the span covers it or not
      show markedText (markedLinesFrom [span] _ text) = _
      rw [hrest]
      split
      · rfl
      · rfl
    · obtain ⟨line, lines, hlines⟩ :=
        exists_markedLinesFrom_eq_cons [span] (offset + unitWidth c) text
      rw [hlines] at hrest
      rw [markedLinesFrom_cons hc hlines, markedText, List.flatMap_cons, markedChars_consMarked]
      -- any other character is marked just when its first unit is inside
      by_cases hin : span.first ≤ offset ∧ offset < span.last
      · rw [if_pos hin, hmarked.2 hin, List.filter_cons_of_pos rfl,
          List.filter_cons_of_pos (by simpa using hc), ← hrest]
        rfl
      · rw [if_neg hin, Bool.eq_false_iff.2 (fun h => hin (hmarked.1 h)),
          List.filter_cons_of_neg (by simp), ← hrest]
        rfl

/-- The snippet of a span has the character with index `k`: it was cut out of the source where its
first offset is, and reaches beyond that character. -/
def Span.Covers (span : Span) (source : List Char) (k : Nat) : Prop :=
  ∃ start cut, seekUnits source span.first = some start ∧
    snippet source (some span.first) (some span.last) = some cut ∧
    cut <+: source.drop start ∧ start ≤ k ∧ k < start + cut.length

/-- **A snippet covers the characters whose offsets its span contains.** -/
theorem Span.covers_iff {source : List Char} {k : Nat} (hk : k < source.length) (span : Span) :
    span.Covers source k ↔
      span.first ≤ unitCount (source.take k) ∧ unitCount (source.take k) < span.last := by
  -- everything is said by how many characters begin before the two ends
  have hcut := drop_take_charsBefore span.first span.last 0 source
  rw [Nat.sub_zero, Nat.sub_zero] at hcut
  have hstop := charsBefore_le_length source span.last
  have hlength : (charsWithin span.first span.last 0 source).length =
      charsBefore source span.last - charsBefore source span.first := by
    rw [← hcut, List.length_drop, List.length_take, Nat.min_eq_left hstop]
  have hprefix : charsWithin span.first span.last 0 source <+:
      source.drop (charsBefore source span.first) := by
    rw [← hcut, List.drop_take]
    exact List.take_prefix _ _
  have hfirst := charsBefore_le_iff hk span.first
  have hlast := charsBefore_le_iff hk span.last
  unfold Span.Covers
  simp only [seekUnits_eq, snippet_eq]
  constructor
  · rintro ⟨start, cut, hstart, hsome, -, hle, hlt⟩
    rw [Option.ite_none_right_eq_some] at hstart hsome
    obtain ⟨-, ⟨⟩⟩ := hstart
    obtain ⟨-, ⟨⟩⟩ := hsome
    omega
  · rintro ⟨hge, hlt⟩
    have hin : span.first ≤ unitCount source := hge.trans (unitCount_take_le source k)
    refine ⟨_, _, if_pos hin, if_pos ⟨by omega, hin⟩, hprefix, ?_, ?_⟩
    · omega
    · omega

/-! ### The source pane -/

/-- The character at a place, marked by whether the units before it lie in some span. -/
theorem charAt_markedLines (text : List Char) (spans : List Span) (row column : Nat) :
    charAt ((markedLines text spans).map markedChars) row column =
      (charAt (splitLines text) row column).map fun c =>
        (c, decide (∃ span ∈ spans, span.first ≤ placeUnits text row column ∧
          placeUnits text row column < span.last)) := by
  rw [markedLines, charAt_markedLinesFrom, Nat.zero_add]
  simp only [← any_contains_iff, Bool.decide_eq_true]

/-- The spans of the active kind are those of its nodes in the last good tree. -/
theorem Model.mem_activeSpans_iff {m : Model} {span : Span} :
    span ∈ m.activeSpans ↔ ∃ tree kind, m.session.tree = some tree ∧ m.activeKind = some kind ∧
      span ∈ tree.spansOf m.settings.tagKeys kind := by
  unfold activeSpans
  cases m.session.tree with
  | none => simp
  | some tree =>
    cases m.activeKind with
    | none => simp
    | some kind => simp

/-- A place of the source is marked exactly when the tree was read from this source and the snippet
of a node of the active kind covers it. -/
theorem Model.marked_iff (m : Model) (row column : Nat) :
    let source := m.session.source.toList
    (∃ c, charAt ((markedLines source m.highlights).map markedChars) row column =
      some (c, true)) ↔
      (charAt (splitLines source) row column).isSome = true ∧
        m.session.treeSource = some m.session.source ∧
        ∃ tree kind, m.session.tree = some tree ∧ m.activeKind = some kind ∧
          ∃ span ∈ tree.spansOf m.settings.tagKeys kind,
            span.Covers source (placeIndex source row column) := by
  intro source
  rw [charAt_markedLines]
  cases hplace : charAt (splitLines source) row column with
  | none => simp
  | some c =>
    have hk : placeIndex source row column < source.length :=
      (List.getElem?_eq_some_iff.1 (getElem?_placeIndex hplace)).1
    have hcovers : ∀ span : Span, span.Covers source (placeIndex source row column) ↔
        span.first ≤ placeUnits source row column ∧ placeUnits source row column < span.last :=
      Span.covers_iff hk
    -- the spans on screen are those of the active kind in the session's tree
    have hactive : (∃ span ∈ m.activeSpans, span.Covers source (placeIndex source row column)) ↔
        ∃ tree kind, m.session.tree = some tree ∧ m.activeKind = some kind ∧
          ∃ span ∈ tree.spansOf m.settings.tagKeys kind,
            span.Covers source (placeIndex source row column) := by
      simp only [Model.mem_activeSpans_iff]
      constructor
      · rintro ⟨span, ⟨tree, kind, htree, hkind, hspan⟩, hcovered⟩
        exact ⟨tree, kind, htree, hkind, span, hspan, hcovered⟩
      · rintro ⟨tree, kind, htree, hkind, span, hspan, hcovered⟩
        exact ⟨span, ⟨tree, kind, htree, hkind, hspan⟩, hcovered⟩
    rw [← hactive]
    unfold Model.highlights
    simp only [hcovers]
    by_cases hshown : m.session.treeSource = some m.session.source
    · simp [hshown]
    · simp [hshown]

/-- **Marking is lossless, and what is marked are the snippets.** For any text and spans, the runs
of each line have its characters, none is empty, and each has another mark than the one before; the
character at a place is marked exactly when the offset that it starts at lies in a span.  So one
span marks its snippet without the line ends, and nothing when there is no snippet.  In any model,
the source pane marks a place exactly when the tree was read from the source that is shown, so
that its spans are spans of this source, and the snippet of a node of the active kind in this tree
covers the place. -/
theorem marked_text_is_snippets :
    (∀ (text : List Char) (spans : List Span),
      (markedLines text spans).map (·.flatMap (·.text)) = splitLines text ∧
      (∀ line ∈ markedLines text spans, (∀ run ∈ line, run.text ≠ []) ∧
        line.IsChain fun run next => run.marked ≠ next.marked) ∧
      ∀ row column, charAt ((markedLines text spans).map markedChars) row column =
        (charAt (splitLines text) row column).map fun c =>
          (c, decide (∃ span ∈ spans, span.first ≤ placeUnits text row column ∧
            placeUnits text row column < span.last))) ∧
    (∀ (text : List Char) (span : Span), markedText (markedLines text [span]) =
      ((snippet text (some span.first) (some span.last)).getD []).filter (· ≠ '\n')) ∧
    ∀ (m : Model) (row column : Nat),
      let source := m.session.source.toList
      (∃ c, charAt ((markedLines source m.highlights).map markedChars) row column =
        some (c, true)) ↔
        (charAt (splitLines source) row column).isSome = true ∧
          m.session.treeSource = some m.session.source ∧
          ∃ tree kind, m.session.tree = some tree ∧ m.activeKind = some kind ∧
            ∃ span ∈ tree.spansOf m.settings.tagKeys kind,
              span.Covers source (placeIndex source row column) := by
  refine ⟨fun text spans => ⟨map_text_markedLinesFrom spans 0 text, fun line hline => ?_,
    charAt_markedLines text spans⟩, fun text span => ?_, Model.marked_iff⟩
  · have hwell := wellRun_of_mem_markedLinesFrom hline
    exact ⟨hwell.filled, hwell.alternates⟩
  · rw [getD_snippet]
    exact markedText_markedLinesFrom span 0 text

/-- The workbench with the tree of two nested nodes, and the cursor behind the kind of the inner
one. -/
def leafModel : Model :=
  (Model.ofSession (.start "word" "visitor: \x7b Leaf" .standard) openRules).run
    [.recompute spannedTools 0, .setRuleCursor 15]

/-- In a workbench that reads a tree and takes its active kind from the rule, the letters of the
leaf are marked, and no others; once another source is typed none is. -/
theorem marked_text_is_snippets_leaf :
    let source := "word".toList
    let lines := markedLines source leafModel.highlights
    let typed := leafModel.run [.editSource "words" 1]
    leafModel.session.source = "word" ∧ markedText lines = ['o', 'r'] ∧
      (∃ c, charAt (lines.map markedChars) 0 1 = some (c, true)) ∧
      (¬∃ c, charAt (lines.map markedChars) 0 3 = some (c, true)) ∧
      ¬∃ c, charAt ((markedLines "words".toList typed.highlights).map markedChars) 0 1 =
        some (c, true) := by
  intro source lines typed
  have hsession : leafModel.session.source = "word" ∧
      leafModel.session.treeSource = some "word" ∧
      leafModel.session.tree = some spannedTree ∧ leafModel.activeKind = some "Leaf" := by
    unfold leafModel
    refine ⟨?_, ?_, ?_, ?_⟩ <;> cbv
  obtain ⟨hsource, htreeSource, htree, hkind⟩ := hsession
  have hspans : spannedTree.spansOf leafModel.settings.tagKeys "Leaf" = [⟨1, 3⟩] := by
    unfold leafModel
    cbv
  have hhighlights : leafModel.highlights = [⟨1, 3⟩] := by
    unfold leafModel
    cbv
  have hcovers : ∀ k, k < source.length → (Span.Covers ⟨1, 3⟩ source k ↔
      1 ≤ unitCount (source.take k) ∧ unitCount (source.take k) < 3) :=
    fun k hk => Span.covers_iff hk ⟨1, 3⟩
  -- a character inside the one span, one behind it, and the first one of a newer text
  obtain ⟨-, hone, hmodel⟩ := marked_text_is_snippets
  have hlit := hmodel leafModel
  rw [hsource] at hlit
  refine ⟨hsource, ?_, ?_, ?_, ?_⟩
  · show markedText (markedLines source leafModel.highlights) = _
    rw [hhighlights, hone source ⟨1, 3⟩]
    decide
  · refine (hlit 0 1).2 ⟨rfl, htreeSource, spannedTree, "Leaf", htree, hkind, ⟨1, 3⟩, ?_, ?_⟩
    · rw [hspans]
      exact List.mem_singleton_self _
    · exact (hcovers 1 (by decide)).2 (by decide)
  · intro hmarked
    obtain ⟨-, -, tree, kind, htree', hkind', span, hspan, hcovered⟩ := (hlit 0 3).1 hmarked
    obtain rfl : spannedTree = tree := Option.some.inj (htree.symm.trans htree')
    obtain rfl : "Leaf" = kind := Option.some.inj (hkind.symm.trans hkind')
    rw [hspans, List.mem_singleton] at hspan
    subst hspan
    exact absurd ((hcovers 3 (by decide)).1 hcovered) (by decide)
  · intro hmarked
    obtain ⟨-, hshown, -⟩ := (hmodel typed 0 1).1 hmarked
    exact absurd (Option.some.inj (htreeSource.symm.trans hshown)) (by decide)

end TreeOutline
