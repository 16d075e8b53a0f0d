import Mathlib
import TreeOutline.Proofs.Workbench.KindNames

namespace TreeOutline

/-!
# Which kind is active

The active kind is the last one named in the handlers before the cursor.

* `cutAt_eq_some_iff`, `cutAt_eq_none_iff` — a text is cut at the first occurrence of a marker.
* `handlerText?_of_once`, `handlerText?_of_again` — the handlers reach up to the cursor, or to the
  next occurrence of the marker.
* `activeKindAt_eq_iff` — the active kind is what a search for names finds last in the handlers.
* `activeKindAt_of_marker` — **where the handlers end decides which name that is**: names after a
  second marker are not looked at.
* `activeKindAt_last_run` — **the active kind is the last run of words**, wherever it stands: it may
  be a piece of an identifier.
-/

/-! ### The handlers -/

section

variable {marker text before after : List Char}

/-- A text that is cut at a marker is cut at the first place where the marker stands. -/
theorem firstMatch_of_cutAt (h : cutAt marker text = some (before, after)) :
    FirstMatch (· = marker) text before marker after := by
  induction text generalizing before after with
  | nil =>
    rw [cutAt, Option.ite_none_right_eq_some, Option.some.injEq, Prod.mk.injEq] at h
    obtain ⟨rfl, rfl, rfl⟩ := h
    refine ⟨rfl, rfl, fun _ _ _ _ _ => Nat.zero_le _, fun other _ _ hother => ?_⟩
    rw [hother]
  | cons c text ih =>
    rw [cutAt] at h
    by_cases hstart : marker.isPrefixOf (c :: text) = true
    · rw [if_pos hstart, Option.some.injEq, Prod.mk.injEq] at h
      obtain ⟨rfl, rfl⟩ := h
      obtain ⟨rest, hrest⟩ := List.isPrefixOf_iff_prefix.1 hstart
      refine ⟨?_, rfl, fun _ _ _ _ _ => Nat.zero_le _, fun other _ _ hother => ?_⟩
      · rw [← hrest, List.drop_left, List.nil_append]
      · rw [hother]
    · -- not here, so the first one of the rest is the first one
      rw [if_neg hstart, Option.map_eq_some_iff] at h
      obtain ⟨⟨front, rest⟩, hcut, hresult⟩ := h
      obtain ⟨rfl, rfl⟩ := Prod.mk.inj hresult
      refine FirstMatch.cons ?_ (ih hcut)
      rintro other rfl hpart
      exact hstart (List.isPrefixOf_iff_prefix.2 hpart)

/-- A text cannot be cut exactly where the marker stands nowhere in it. -/
theorem cutAt_eq_none_iff : cutAt marker text = none ↔ ¬ marker <:+: text := by
  induction text with
  | nil => simp [cutAt]
  | cons c text ih =>
    rw [cutAt, List.infix_cons_iff]
    -- a part of the text begins with its first character or lies in the rest
    by_cases hstart : marker.isPrefixOf (c :: text) = true
    · rw [if_pos hstart]
      simp [List.isPrefixOf_iff_prefix.1 hstart]
    · have hnot : ¬ marker <+: c :: text := fun hpart =>
        hstart (List.isPrefixOf_iff_prefix.2 hpart)
      rw [if_neg hstart, Option.map_eq_none_iff, ih]
      simp [hnot]

/-- A text is cut at the first occurrence of the marker. -/
theorem cutAt_eq_some_iff :
    cutAt marker text = some (before, after) ↔
      FirstMatch (· = marker) text before marker after := by
  refine ⟨firstMatch_of_cutAt, fun h => ?_⟩
  cases hcut : cutAt marker text with
  | none => exact absurd ⟨before, after, h.split.symm⟩ (cutAt_eq_none_iff.1 hcut)
  | some cut =>
    obtain ⟨rfl, -, rfl⟩ := (firstMatch_of_cutAt hcut).unique h
    rfl

end

section

variable {text front after between rest : List Char}

/-- Without the marker there is no text of handlers. -/
theorem handlerText?_of_absent (h : ¬ handlerMarker <:+: text) : handlerText? text = none := by
  unfold handlerText?
  rw [cutAt_eq_none_iff.2 h]
  rfl

/-- After the only marker all text is that of the handlers. -/
theorem handlerText?_of_once (h : FirstMatch (· = handlerMarker) text front handlerMarker after)
    (honce : ¬ handlerMarker <:+: after) : handlerText? text = some after := by
  simp only [handlerText?, cutAt_eq_some_iff.2 h, cutAt_eq_none_iff.2 honce,
    Option.bind_eq_bind, Option.bind_some]

/-- A second marker ends the handlers. -/
theorem handlerText?_of_again (h : FirstMatch (· = handlerMarker) text front handlerMarker after)
    (hagain : FirstMatch (· = handlerMarker) after between handlerMarker rest) :
    handlerText? text = some between := by
  simp only [handlerText?, cutAt_eq_some_iff.2 h, cutAt_eq_some_iff.2 hagain,
    Option.bind_eq_bind, Option.bind_some]

end

/-! ### The last name in the handlers -/

variable {rule : String} {offset : Nat} {handlers : List Char}

/-- Without a text of handlers in front of the cursor no kind is active. -/
theorem activeKindAt_of_none (h : handlerText? (rule.toList.take offset) = none) :
    activeKindAt rule offset = none := by
  unfold activeKindAt
  rw [h]
  rfl

/-- With one the last name in it is the active kind, if there is one. -/
theorem activeKindAt_of_some (h : handlerText? (rule.toList.take offset) = some handlers) :
    activeKindAt rule offset = (kindNames handlers).getLast?.map String.ofList := by
  unfold activeKindAt
  rw [h]
  show ((kindNames handlers).getLast?.bind fun name => some (String.ofList name)) = _
  rw [Option.map_eq_bind]
  rfl

/-- **The active kind** is what a search for names finds last in the handlers. -/
theorem activeKindAt_eq_iff (h : handlerText? (rule.toList.take offset) = some handlers)
    (answer : Option String) :
    activeKindAt rule offset = answer ↔
      LastMatch KindName handlers (answer.map String.toList) := by
  have hlast := lastMatch_kindNames handlers
  rw [activeKindAt_of_some h]
  constructor
  · rintro rfl
    rw [Option.map_map]
    simpa [Function.comp_def] using hlast
  · intro hanswer
    -- there is one last match only, and the list of names ends in it
    rw [hlast.unique hanswer, Option.map_map]
    simp [Function.comp_def]

/-- A character that identifiers are made of. -/
def isIdentifierChar (c : Char) : Bool := isCapital c || isWordTail c || c == '_' || c == '$'

/-- No identifier goes on from the text before a place to the text after it, on either side of what
stands there. -/
structure StandsAlone (before after : List Char) : Prop where
  left : ∀ front c, before = front ++ [c] → isIdentifierChar c = false
  right : ∀ c rest, after = c :: rest → isIdentifierChar c = false

/-- **Where the handlers end.** Without the marker before the cursor there is no active kind.  If it
occurs once, the active kind is what a search for names finds last between the marker and the
cursor.  If it occurs again, only the text up to its second occurrence is searched. -/
theorem activeKindAt_of_marker (rule : String) (offset : Nat) :
    let before := rule.toList.take offset
    (¬ handlerMarker <:+: before → activeKindAt rule offset = none) ∧
      (handlerMarker <:+: before → ∃ front after,
        FirstMatch (· = handlerMarker) before front handlerMarker after ∧
        (¬ handlerMarker <:+: after → ∀ answer, activeKindAt rule offset = answer ↔
          LastMatch KindName after (answer.map String.toList)) ∧
        ∀ between rest, FirstMatch (· = handlerMarker) after between handlerMarker rest →
          ∀ answer, activeKindAt rule offset = answer ↔
            LastMatch KindName between (answer.map String.toList)) := by
  intro before
  constructor
  · intro habsent
    exact activeKindAt_of_none (handlerText?_of_absent habsent)
  · intro hmarker
    cases hcut : cutAt handlerMarker before with
    | none => exact absurd hmarker (cutAt_eq_none_iff.1 hcut)
    | some cut =>
      obtain ⟨front, after⟩ := cut
      -- the handlers end with the text, or at the next marker if there is one
      have hfirst := cutAt_eq_some_iff.1 hcut
      refine ⟨front, after, hfirst, fun honce => ?_, fun between rest hagain => ?_⟩
      · exact activeKindAt_eq_iff (handlerText?_of_once hfirst honce)
      · exact activeKindAt_eq_iff (handlerText?_of_again hfirst hagain)

/-- **The last run of words.** A kind is active exactly when it is the last name in the handlers
that is no part of a longer one, and that is the name that a search finds last.  An identifier goes
on after it with a capital letter, `_` or `$` at most. -/
theorem activeKindAt_last_run (rule : String) (offset : Nat) (kind : String) :
    (activeKindAt rule offset = some kind ↔ ∃ handlers before after,
      handlerText? (rule.toList.take offset) = some handlers ∧
        LastRun handlers before kind.toList after) ∧
      ∀ handlers before after, handlerText? (rule.toList.take offset) = some handlers →
        LastRun handlers before kind.toList after →
        FindsLast KindName handlers before kind.toList after ∧
          ∀ c rest, after = c :: rest → isIdentifierChar c = true →
            isCapital c = true ∨ c = '_' ∨ c = '$' := by
  refine ⟨⟨fun hactive => ?_, ?_⟩, fun handlers before after hhandlers hrun => ⟨?_, ?_⟩⟩
  · cases hhandlers : handlerText? (rule.toList.take offset) with
    | none =>
      rw [activeKindAt_of_none hhandlers] at hactive
      exact nomatch hactive
    | some handlers =>
      obtain ⟨before, after, hlast⟩ := (activeKindAt_eq_iff hhandlers _).1 hactive
      exact ⟨handlers, before, after, rfl, hlast.lastRun⟩
  · rintro ⟨handlers, before, after, hhandlers, hrun⟩
    exact (activeKindAt_eq_iff hhandlers _).2 ⟨before, after, findsLast_iff_lastRun.2 hrun⟩
  · exact findsLast_iff_lastRun.2 hrun
  · intro c rest hafter hc
    -- a name runs as far as it can, and what stops it may still be of an identifier
    have htail : isWordTail c = false := hrun.stops c rest hafter
    simpa [isIdentifierChar, htail, or_assoc] using hc

/-! ### A rule with a second marker -/

/-- Two visitors, one after the other. -/
def twoVisitors : String := "visitor: \x7b Foo \x7d visitor: \x7b Bar"

/-- The text after the first marker. -/
def afterFirstVisitor : List Char := " Foo \x7d visitor: \x7b Bar".toList

/-- In the rule with two visitors the marker first stands at the beginning. -/
theorem firstMatch_twoVisitors :
    FirstMatch (· = handlerMarker) (twoVisitors.toList.take 31) [] handlerMarker
      afterFirstVisitor :=
  cutAt_eq_some_iff.1 (by cbv)

/-- The last name between the two markers is the active kind at the end of the rule. -/
theorem activeKindAt_of_marker_again :
    handlerMarker <:+: twoVisitors.toList.take 31 ∧
      FirstMatch (· = handlerMarker) afterFirstVisitor " Foo \x7d ".toList handlerMarker
        " Bar".toList ∧
      LastMatch KindName " Foo \x7d ".toList (some "Foo".toList) := by
  have hmarker : handlerMarker <:+: twoVisitors.toList.take 31 :=
    ⟨[], afterFirstVisitor, firstMatch_twoVisitors.split.symm⟩
  have hsecond : FirstMatch (· = handlerMarker) afterFirstVisitor " Foo \x7d ".toList handlerMarker
      " Bar".toList := cutAt_eq_some_iff.1 (by cbv)
  refine ⟨hmarker, hsecond, ?_⟩
  obtain ⟨front, after, hfirst, -, hagain⟩ := (activeKindAt_of_marker twoVisitors 31).2 hmarker
  obtain ⟨-, -, rfl⟩ := hfirst.unique firstMatch_twoVisitors
  exact (hagain _ _ hsecond (some "Foo")).1 (by cbv)

/-- **A second marker hides the names after it.** The last name between the first marker and the
cursor is `Bar`, the active kind is `Foo`. -/
theorem activeKindAt_second_marker :
    LastMatch KindName afterFirstVisitor (some "Bar".toList) ∧
      activeKindAt twoVisitors 31 = some "Foo" ∧
      ¬ ∀ (rule : String) (offset : Nat) (front after : List Char),
        FirstMatch (· = handlerMarker) (rule.toList.take offset) front handlerMarker after →
          LastMatch KindName after ((activeKindAt rule offset).map String.toList) := by
  have hlast : LastMatch KindName afterFirstVisitor (some "Bar".toList) := by
    have hnames : (kindNames afterFirstVisitor).getLast? = some "Bar".toList := by cbv
    rw [← hnames]
    exact lastMatch_kindNames afterFirstVisitor
  have hactive : activeKindAt twoVisitors 31 = some "Foo" := by cbv
  refine ⟨hlast, hactive, fun hclaim => ?_⟩
  -- read up to the cursor the last kind is the second one, and the answer is the first
  have hother := hlast.unique (hclaim twoVisitors 31 [] afterFirstVisitor firstMatch_twoVisitors)
  rw [hactive] at hother
  exact absurd hother (by decide)

/-! ### A rule with a call in a handler -/

/-- A handler that calls a method with a capital letter in its name. -/
def callingHandler : String := "visitor: \x7b Identifier(path) \x7b path.replaceWith"

/-- What stands in the handler in front of that letter. -/
def beforeCapital : List Char := " Identifier(path) \x7b path.replace".toList

/-- In the rule with a call the text of handlers ends with the capital word of the call. -/
theorem handlerText?_callingHandler :
    handlerText? (callingHandler.toList.take 46) = some (beforeCapital ++ "With".toList) := by
  cbv

/-- No name ends there, and nothing stands after the last one. -/
theorem lastRun_callingHandler :
    LastRun (beforeCapital ++ "With".toList) beforeCapital "With".toList [] where
  split := (List.append_nil _).symm
  named := kindName_iff.2 ⟨by decide, by cbv⟩
  starts := by
    -- no end of what is before it makes a name, so the run begins at the capital
    have hnone : (beforeCapital.tails.all fun other => decide (¬ KindName other)) = true := by cbv
    intro other hother hpart
    have hnot := List.all_eq_true.1 hnone other ((List.mem_tails _ _).2 hpart)
    exact of_decide_eq_true hnot hother
  stops := by simp
  last := by
    intro other hother hpart
    exact hother.ne_nil (List.infix_nil.1 hpart)

/-- So the piece of the method's name is the last run of words. -/
theorem activeKindAt_last_run_call :
    handlerText? (callingHandler.toList.take 46) = some (beforeCapital ++ "With".toList) ∧
      LastRun (beforeCapital ++ "With".toList) beforeCapital "With".toList [] ∧
      activeKindAt callingHandler 46 = some "With" := by
  refine ⟨handlerText?_callingHandler, lastRun_callingHandler, ?_⟩
  exact (activeKindAt_last_run callingHandler 46 "With").1.2
    ⟨_, _, _, handlerText?_callingHandler, lastRun_callingHandler⟩

/-- **A piece of an identifier can be active.** In front of the call the active kind is that of the
handler; behind the method's name it is the end of this name, and the letter before it is one of the
same identifier. -/
theorem activeKindAt_piece :
    activeKindAt callingHandler 35 = some "Identifier" ∧
      activeKindAt callingHandler 46 = some "With" ∧
      ¬ ∀ (rule : String) (offset : Nat) (kind : String) (handlers before after : List Char),
        activeKindAt rule offset = some kind →
        handlerText? (rule.toList.take offset) = some handlers →
        FindsLast KindName handlers before kind.toList after → StandsAlone before after := by
  have hactive : activeKindAt callingHandler 46 = some "With" := by cbv
  refine ⟨by cbv, hactive, fun hclaim => ?_⟩
  have halone := hclaim callingHandler 46 "With" _ _ _ hactive handlerText?_callingHandler
    (findsLast_iff_lastRun.2 lastRun_callingHandler)
  have hleft := halone.left " Identifier(path) \x7b path.replac".toList 'e' (by decide)
  exact absurd hleft (by decide)

end TreeOutline
