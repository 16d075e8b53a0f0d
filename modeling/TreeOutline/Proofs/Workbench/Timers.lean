import TreeOutline.Proofs.Workbench.History

namespace TreeOutline

/-!
# The timers of a session

When a session runs its tools, and when it shows their complaint.

* `History.isDue_iff`, `History.tickedFrom_iff`, `Recompute.complaint?_eq_some_iff` — what the
  history says of edits, ticks and complaints, in terms of the events in it.
* `History.recomputes_run_ticks` — without a new edit, ticks run nothing.
* `Session.tick_eq`, `tick_results` — a tick runs the tools exactly when the history says that it
  is due, and changes the results only by this recompute.
* `Session.recompute_results`, `recompute_pendingError` — what a recompute keeps of the answers that
  its tools give at the texts of the session.
* `Session.burst_recomputed_once` — a burst of edits is recomputed once, on the latest texts, by
  the first tick that comes late enough or by a recompute before it.
* `Session.tick_fst_eq_false_iff` — a tick says whether it changed the session.
* `Session.error_of_latest_failure` — the error that is shown is what the latest recompute
  complains of, once a tick came late enough after it.
-/

/-! ### Reading a history -/

/-- The parser failed with this wording, or it did not and the transformer did. -/
def Recompute.FailedWith (r : Recompute) (message : String) : Prop :=
  (∃ problem, r.tools.parse r.source = .error problem ∧ problem.message = message) ∨
    ∃ tree transform problem, r.tools.parse r.source = .ok tree ∧
      r.tools.transform = some transform ∧ transform r.source r.rule = .error problem ∧
      problem.message = message

/-- A recompute complains of what it has failed with. -/
theorem Recompute.complaint?_eq_some_iff {r : Recompute} {message : String} :
    r.complaint? = some message ↔ r.FailedWith message := by
  unfold complaint? FailedWith
  -- the parser fails, there is no transform, or the transform decides
  cases r.tools.parse r.source with
  | error problem => simp
  | ok tree =>
    cases r.tools.transform with
    | none => simp
    | some transform =>
      cases htransform : transform r.source r.rule with
      | error problem => simp [htransform]
      | ok output => simp [htransform]

namespace History

/-- A session is edited where an edit is among the recent events. -/
theorem edited_iff {h : History} :
    h.edited = true ↔ ∃ event ∈ h.recent, event.editTime?.isSome = true :=
  List.any_eq_true

/-- An edit since the latest recompute is an edit. -/
theorem lastEdit?_isSome_of_edited {h : History} (hedited : h.edited = true) :
    h.lastEdit?.isSome = true := by
  obtain ⟨event, hevent, htime⟩ := edited_iff.1 hedited
  unfold lastEdit?
  rw [List.isSome_findSome?, List.any_eq_true]
  exact ⟨event, (List.takeWhile_sublist _).subset hevent, htime⟩

/-- It is due where it is edited and the last edit is a quiet time ago. -/
theorem isDue_iff {h : History} {now : Time} :
    h.isDue now = true ↔ (∃ event ∈ h.recent, event.editTime?.isSome = true) ∧
      ∃ time ∈ h.lastEdit?, time + h.timing.edits ≤ now := by
  unfold isDue
  rw [Bool.and_eq_true, edited_iff, Option.any_eq_true]
  simp

/-- It has ticked from a time on where a recent tick is late enough. -/
theorem tickedFrom_iff {h : History} {time : Time} :
    h.tickedFrom time = true ↔ ∃ now, .tick now ∈ h.recent ∧ time ≤ now := by
  unfold tickedFrom
  rw [List.any_eq_true]
  constructor
  · rintro ⟨event, hevent, htime⟩
    -- of the events only ticks have such a time
    cases event with
    | tick now => exact ⟨now, hevent, by simpa [Event.tickTime?] using htime⟩
    | editSource | editRule | recompute => exact absurd htime (by simp [Event.tickTime?])
  · rintro ⟨now, htick, htime⟩
    exact ⟨.tick now, htick, by simpa [Event.tickTime?] using htime⟩

/-- A complaint is shown once a tick since the latest recompute came late enough. -/
theorem shown?_map_fst_eq_some_iff {h : History} {message : String} :
    h.shown?.map Prod.fst = some message ↔
      ∃ r, h.recomputes.head? = some r ∧ r.FailedWith message ∧
        ∃ now, .tick now ∈ h.recent ∧ r.now + h.timing.errors ≤ now := by
  unfold shown? failure?
  cases h.recomputes.head? with
  | none => simp
  | some r =>
    simp only [Option.bind_some, Option.some.injEq, exists_eq_left', ← tickedFrom_iff,
      ← Recompute.complaint?_eq_some_iff]
    cases r.complaint? with
    | none => simp
    | some complaint =>
      -- the failure of the latest recompute, once a tick came late enough
      cases hticked : h.tickedFrom (r.now + h.timing.errors) with
      | false => simp [Option.filter, hticked]
      | true => simp [Option.filter, hticked]

/-- No action changes the times that are waited for. -/
theorem timing_act (h : History) (tools : Tools) (action : Session.Action) :
    (h.act tools action).timing = h.timing := by
  cases action with
  | tick now =>
    rw [act]
    cases h.isDue now with
    | false => rfl
    | true => rfl
  | editSource | editRule | recompute => rfl

/-- Nor does a run. -/
theorem timing_run (h : History) (steps : List (Tools × Session.Action)) :
    (h.run steps).timing = h.timing := by
  induction steps generalizing h with
  | nil => rfl
  | cons step rest ih =>
    show ((h.act step.1 step.2).run rest).timing = h.timing
    rw [ih, timing_act]

/-- Without a new edit, ticks run nothing. -/
theorem recomputes_run_ticks {h : History} (hquiet : h.edited = false)
    (ticks : List (Tools × Time)) :
    (h.run (ticks.map fun tick => (tick.1, .tick tick.2))).recomputes = h.recomputes := by
  induction ticks generalizing h with
  | nil => rfl
  | cons tick rest ih =>
    -- no edit since the last recompute, so the tick has none to make
    have hact : h.act tick.1 (.tick tick.2) = h.add (.tick tick.2) := by
      unfold act isDue
      rw [hquiet]
      rfl
    show ((h.act tick.1 (.tick tick.2)).run _).recomputes = _
    rw [hact]
    exact ih hquiet

end History

namespace Session

/-- A session stands where its history says. -/
theorem run_start (source rule : String) (timing : Timing) (steps : List (Tools × Action)) :
    (start source rule timing).run steps =
      ((History.start source rule timing).run steps).session := by
  rw [History.session_run, History.session_start]

/-! ### Recomputes -/

/-- A tick runs the tools exactly when it is due. -/
theorem tick_eq (h : History) (tools : Tools) (now : Time) :
    h.session.tick tools now =
      if h.isDue now then (true, ((h.session.recompute tools now).surfaceError now).2)
      else h.session.surfaceError now := by
  unfold tick
  rw [h.isDue_edits]

/-- The timer of edits runs exactly where there is an edit since the last recompute. -/
theorem isPending_eq (h : History) : h.session.isPending = h.edited := by
  show (if h.edited then h.lastEdit?.map (· + h.timing.edits) else none).isSome = h.edited
  cases hedited : h.edited with
  | false => rfl
  | true => rw [if_pos rfl, Option.isSome_map, h.lastEdit?_isSome_of_edited hedited]

/-- A tick changes the results as the recompute does that it runs, if it runs one. -/
theorem tick_results (h : History) (tools : Tools) (now : Time) :
    (h.session.tick tools now).2.results =
      if h.isDue now then (h.session.recompute tools now).results else h.session.results := by
  rw [tick_eq]
  cases h.isDue now with
  | false => exact surfaceError_results _ now
  | true => exact surfaceError_results _ now

/-- The results of a recompute are what its tools answer at the texts of the session, and where
they have no answer the results there were. -/
theorem recompute_results (s : Session) (tools : Tools) (now : Time) :
    (s.recompute tools now).results =
      ((tools.parse s.source).toOption.or s.tree,
        ((tools.parse s.source).toOption.map fun _ => s.source).or s.treeSource,
        (tools.transform.bind fun transform => (transform s.source s.rule).toOption).or
          s.output) := by
  rw [show s.recompute tools now = _ from
    recompute_eq (r := ⟨tools, s.source, s.rule, now⟩) rfl rfl]
  rfl

/-- Its complaint waits to be shown. -/
theorem recompute_pendingError (s : Session) (tools : Tools) (now : Time) :
    (s.recompute tools now).pendingError =
      Recompute.complaint? ⟨tools, s.source, s.rule, now⟩ := by
  rw [show s.recompute tools now = _ from
    recompute_eq (r := ⟨tools, s.source, s.rule, now⟩) rfl rfl]

/-- A recompute reads its tools at the texts of the session and nowhere else. -/
theorem recompute_congr {s : Session} {tools other : Tools}
    (hparse : tools.parse s.source = other.parse s.source)
    (htransform : (tools.transform.map fun transform => transform s.source s.rule) =
      other.transform.map fun transform => transform s.source s.rule) (now : Time) :
    s.recompute tools now = s.recompute other now := by
  unfold recompute problemOf
  rw [hparse]
  cases hfirst : tools.transform with
  | none =>
    cases hsecond : other.transform with
    | none => rfl
    | some second => exact absurd htransform (by simp [hfirst, hsecond])
  | some first =>
    cases hsecond : other.transform with
    | none => exact absurd htransform (by simp [hfirst, hsecond])
    | some second =>
      -- the transforms are called at the two texts and nowhere else
      have hanswer : first s.source s.rule = second s.source s.rule := by
        simpa [hfirst, hsecond] using htransform
      simp only [Option.bind_some, hanswer]

/-- Once recomputed, a session without a new edit is not recomputed by any ticks. -/
theorem generation_run_ticks {h : History} (hquiet : h.edited = false)
    (ticks : List (Tools × Time)) :
    (h.session.run (ticks.map fun tick => (tick.1, .tick tick.2))).generation =
      h.session.generation := by
  rw [← h.session_run]
  show (h.run _).recomputes.length = h.recomputes.length
  rw [h.recomputes_run_ticks hquiet]

/-- **A burst of edits is recomputed once.** After any run, at any times and with tools that answer
as they like, a tick runs the tools exactly when there was an edit since the latest recompute and
the quiet period after the latest edit is over; the session is pending as long as there was such an
edit, and counts its recomputes.  A recompute, by a tick or not, ends the burst: no ticks after it
run the tools again.  It works on the texts of the latest edits: the tree and the output become
what the tools answer there, the text of the tree becomes the latest source, the complaint that
waits is theirs, and their answers elsewhere do not matter; a tick that is due has the same
results. -/
theorem burst_recomputed_once (source rule : String) (timing : Timing)
    (steps : List (Tools × Action)) :
    let s := (start source rule timing).run steps
    let h := (History.start source rule timing).run steps
    let text := latestSource source steps
    let ruleText := latestRule rule steps
    (∀ tools now, s.tick tools now =
      if h.isDue now then (true, ((s.recompute tools now).surfaceError now).2)
      else s.surfaceError now) ∧
      (∀ now, h.isDue now = true ↔ (∃ event ∈ h.recent, event.editTime?.isSome = true) ∧
        ∃ time ∈ h.lastEdit?, time + timing.edits ≤ now) ∧
      (s.isPending = true ↔ ∃ event ∈ h.recent, event.editTime?.isSome = true) ∧
      s.generation = h.recomputes.length ∧
      (∀ tools now (ticks : List (Tools × Time)),
        ((s.recompute tools now).run (ticks.map fun tick => (tick.1, .tick tick.2))).generation =
          s.generation + 1) ∧
      (∀ tools now (ticks : List (Tools × Time)), h.isDue now = true →
        ((s.tick tools now).2.run (ticks.map fun tick => (tick.1, .tick tick.2))).generation =
          s.generation + 1) ∧
      (s.source = text ∧ s.rule = ruleText) ∧
      (∀ tools now, (s.recompute tools now).results =
        ((tools.parse text).toOption.or s.tree,
          ((tools.parse text).toOption.map fun _ => text).or s.treeSource,
          (tools.transform.bind fun transform => (transform text ruleText).toOption).or
            s.output) ∧
        (s.recompute tools now).pendingError =
          Recompute.complaint? ⟨tools, text, ruleText, now⟩) ∧
      (∀ tools now, (s.tick tools now).2.results =
        if h.isDue now then (s.recompute tools now).results else s.results) ∧
      ∀ tools other now, tools.parse h.currentSource = other.parse h.currentSource →
        (tools.transform.map fun transform => transform h.currentSource h.currentRule) =
          (other.transform.map fun transform => transform h.currentSource h.currentRule) →
        s.recompute tools now = s.recompute other now := by
  intro s h text ruleText
  have htiming : h.timing = timing := History.timing_run (.start source rule timing) steps
  have hs : s = h.session := run_start source rule timing steps
  have htexts : s.source = text ∧ s.rule = ruleText :=
    run_texts (start source rule timing) steps
  have hresults := s.recompute_results
  have hcomplaint := s.recompute_pendingError
  -- what the tools answer, said of the latest texts and not of the session's fields
  rw [htexts.1, htexts.2] at hresults hcomplaint
  rw [hs] at htexts hresults hcomplaint ⊢
  refine ⟨tick_eq h, fun now => ?_, ?_, rfl, fun tools now ticks => ?_,
    fun tools now ticks hdue => ?_, htexts,
    fun tools now => ⟨hresults tools now, hcomplaint tools now⟩, tick_results h,
    fun tools other now hparse htransform => recompute_congr hparse htransform now⟩
  · rw [← htiming]
    exact History.isDue_iff
  · rw [isPending_eq]
    exact History.edited_iff
  · rw [← h.session_recompute]
    exact generation_run_ticks rfl ticks
  · -- a due tick is one recompute, and the ticks behind it have no edit to wait for
    have hact : h.act tools (.tick now) = (h.recompute tools now).add (.tick now) := by
      rw [History.act, hdue]
      rfl
    have htick : (h.session.tick tools now).2 =
        ((h.recompute tools now).add (.tick now)).session := by
      rw [← hact, h.session_act]
      rfl
    rw [htick]
    exact generation_run_ticks rfl ticks

/-- Tools that give back what they are given: the source as a tree, and source and rule as one
text. -/
def echoTools : Tools :=
  ⟨fun source => .ok (.str source), some fun source rule => .ok (source ++ rule)⟩

/-- Three edits in a row; the times of the last two are out of order. -/
def typed : List (Tools × Action) :=
  [(echoTools, .editSource "a" 1), (echoTools, .editRule "!" 20), (echoTools, .editSource "b" 10)]

/-- Half a second after the last of three edits, but not before, a tick reads both texts as they
are then; the next tick has nothing to do. -/
theorem burst_recomputed_once_typed :
    let s := (start "" "" .standard).run typed
    let done := (s.tick echoTools 510).2
    s.source = "b" ∧ s.rule = "!" ∧ s.isPending = true ∧
      (s.tick echoTools 509).2.results = (none, none, none) ∧
      done.results = (some (.str "b"), some "b", some "b!") ∧ done.isPending = false ∧
      done.generation = 1 ∧ (done.tick echoTools 511).2.generation = 1 := by
  intro s done
  obtain ⟨-, hdue, hpending, -, -, honce, ⟨hsource, hrule⟩, hrecompute, htick, -⟩ :=
    burst_recomputed_once "" "" .standard typed
  have hedit : ∃ event ∈ ((History.start "" "" .standard).run typed).recent,
      event.editTime?.isSome = true :=
    ⟨.editSource "b" 10, List.mem_cons_self, rfl⟩
  -- the pause is counted from the last edit, whatever its clock says
  have hat510 : ((History.start "" "" .standard).run typed).isDue 510 = true :=
    (hdue 510).2 ⟨hedit, 10, rfl, by decide⟩
  have hat509 : ((History.start "" "" .standard).run typed).isDue 509 = false := by decide
  refine ⟨hsource, hrule, hpending.2 hedit, ?_, ?_, rfl, honce echoTools 510 [] hat510,
    honce echoTools 510 [(echoTools, 511)] hat510⟩
  · exact (htick echoTools 509).trans (by rw [hat509]; rfl)
  · calc done.results
        = (s.recompute echoTools 510).results :=
          (htick echoTools 510).trans (if_pos hat510)
      _ = (some (.str "b"), some "b", some "b!") := (hrecompute echoTools 510).1

/-! ### Errors -/

section

variable {h : History} {now : Time}

/-- The timer of errors runs for a message only. -/
theorem exists_pendingError_of_isDue (hdue : h.session.errorDelay.isDue now = true) :
    ∃ message, h.session.pendingError = some message := by
  rw [h.isDue_errorDelay, Option.any_eq_true] at hdue
  obtain ⟨failure, hwaiting, -⟩ := hdue
  exact ⟨failure.1, History.pendingError_of_waiting? hwaiting⟩

/-- A look at the clock that shows nothing changes nothing: no timer runs without a message. -/
theorem surfaceError_of_fst_eq_false (hsame : (h.session.surfaceError now).1 = false) :
    (h.session.surfaceError now).2 = h.session := by
  cases hdue : h.session.errorDelay.isDue now with
  | false => rw [surfaceError_of_early hdue]
  | true =>
    obtain ⟨message, hpending⟩ := exists_pendingError_of_isDue hdue
    rw [surfaceError_of_due hdue hpending] at hsame
    exact absurd hsame (by simp)

/-- One that shows something changes something: the message does not wait any more. -/
theorem surfaceError_ne_of_fst (hshown : (h.session.surfaceError now).1 = true) :
    (h.session.surfaceError now).2 ≠ h.session := by
  cases hdue : h.session.errorDelay.isDue now with
  | false =>
    rw [surfaceError_of_early hdue] at hshown
    exact absurd hshown (by simp)
  | true =>
    -- an error that is shown no longer waits
    obtain ⟨message, hpending⟩ := exists_pendingError_of_isDue hdue
    rw [surfaceError_of_due hdue hpending]
    intro heq
    rw [← heq] at hpending
    exact absurd hpending (by simp)

/-- A tick that runs the tools counts one more recompute. -/
theorem generation_tick_of_isDue (tools : Tools) (hdue : h.isDue now = true) :
    (h.session.tick tools now).2.generation = h.session.generation + 1 := by
  have htick : (h.session.tick tools now).2 = (h.act tools (.tick now)).session :=
    (h.session_act tools (.tick now)).symm
  rw [htick, History.act, if_pos hdue]
  rfl

/-- **A tick says whether it changed the session**, neither more nor less. -/
theorem tick_fst_eq_false_iff {tools : Tools} :
    (h.session.tick tools now).1 = false ↔ (h.session.tick tools now).2 = h.session := by
  cases hdue : h.isDue now with
  | true =>
    -- a recompute counts, so the session is another even if its results are the same
    have hgeneration := generation_tick_of_isDue tools hdue
    constructor
    · rw [tick_eq, if_pos hdue]
      exact fun hsame => absurd hsame (by simp)
    · intro hsame
      rw [hsame] at hgeneration
      omega
  | false =>
    rw [tick_eq, hdue]
    refine ⟨surfaceError_of_fst_eq_false, fun hsame => ?_⟩
    exact Bool.eq_false_iff.2 fun hshown => surfaceError_ne_of_fst hshown hsame

end

/-- **The error is that of the latest recompute, after its delay.** After any run, at any times and
with tools that answer as they like, an error is shown exactly when the latest recompute failed
with this wording and some tick since it began, that of the recompute included, came when the delay
after it was over.  A message waits exactly while the timer of errors runs, never while an error is
shown, and a tick that reports nothing new leaves the session as it is. -/
theorem error_of_latest_failure (source rule : String) (timing : Timing)
    (steps : List (Tools × Action)) :
    let s := (start source rule timing).run steps
    let h := (History.start source rule timing).run steps
    (∀ message, s.error = some message ↔
      ∃ r, h.recomputes.head? = some r ∧ r.FailedWith message ∧
        ∃ now, .tick now ∈ h.recent ∧ r.now + timing.errors ≤ now) ∧
      s.pendingError.isSome = s.errorDelay.isPending ∧
      (s.pendingError = none ∨ s.error = none) ∧
      ∀ tools now, (s.tick tools now).1 = false → (s.tick tools now).2 = s := by
  intro s h
  have htiming : h.timing = timing := History.timing_run (.start source rule timing) steps
  have hs : s = h.session := run_start source rule timing steps
  rw [hs]
  refine ⟨fun message => ?_, ?_, ?_, fun tools now hsame => ?_⟩
  · rw [← htiming]
    exact History.shown?_map_fst_eq_some_iff
  · show (h.waiting?.map Prod.fst).isSome = (h.waiting?.map Prod.snd).isSome
    rw [Option.isSome_map, Option.isSome_map]
  · show h.waiting?.map Prod.fst = none ∨ h.shown?.map Prod.fst = none
    -- a failure that waits is not on screen yet
    cases hwaiting : h.waiting? with
    | none => exact .inl rfl
    | some failure =>
      rw [History.shown?_eq_none_of_waiting? hwaiting]
      exact .inr rfl
  · rw [tick_eq] at hsame ⊢
    cases hdue : h.isDue now with
    | false =>
      rw [hdue] at hsame
      exact surfaceError_of_fst_eq_false hsame
    | true =>
      rw [hdue] at hsame
      -- a due tick recomputes, and says that it did
      exact absurd hsame (by simp)

end Session

end TreeOutline
