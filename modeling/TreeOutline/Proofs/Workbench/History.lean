import TreeOutline.Workbench.Session

namespace TreeOutline

/-!
# The history of a session

What happened to a session, told without its timers: edits, recomputes and ticks with their times.
Everything a session holds can be read off its history.

* `Session.Action`, `Session.run` — everything that can be done to a session, in any order and at
  any times; the tools may answer each step as they like.
* `Session.recompute_eq`, `Session.surfaceError_results` — a recompute field by field, and what a
  look at the clock leaves alone.
* `Session.latestSource`, `latestRule`, `run_texts` — the texts of the latest edits in a run are
  those of the session after it.
* `Event`, `Recompute`, `History` — what happened, the newest first, each recompute with the tools
  it ran and the texts it ran them on.
* `History.edited`, `History.isDue` — whether there was an edit since the latest recompute, and
  whether the quiet period after the last edit is over.
* `History.failure?`, `waiting?`, `shown?` — what the latest recompute complains of, before and
  after a tick came late enough to show it.
* `History.lastParsed?`, `lastOutput?` — the results of the latest recomputes that had one.
* `History.session` — the session that a history leads to; `session_act` and `session_run` — each
  action, and so every run, leads to the session of its history.
-/

/-! ### Actions and runs -/

namespace Session

/-- What can be done to a session. -/
inductive Action where
  | editSource (source : String) (now : Time)
  | editRule (rule : String) (now : Time)
  | recompute (now : Time)
  | tick (now : Time)
deriving DecidableEq, Repr

namespace Action

/-- The source text that the action puts in place of the one before. -/
def source? : Action → Option String
  | .editSource source _ => some source
  | _ => none

/-- The rule text that the action puts in place of the one before. -/
def rule? : Action → Option String
  | .editRule rule _ => some rule
  | _ => none

end Action

/-- The session after one action, with the tools as they answer at that moment. -/
def act (s : Session) (tools : Tools) : Action → Session
  | .editSource source now => s.editSource source now
  | .editRule rule now => s.editRule rule now
  | .recompute now => s.recompute tools now
  | .tick now => (s.tick tools now).2

/-- The session after a list of actions, each with the tools as they answer at that moment. -/
def run (s : Session) (steps : List (Tools × Action)) : Session :=
  steps.foldl (fun s step => s.act step.1 step.2) s

/-- The source text of the latest edit among the steps, and `source` before the first one. -/
def latestSource (source : String) (steps : List (Tools × Action)) : String :=
  (steps.reverse.findSome? fun step => step.2.source?).getD source

/-- The rule text of the latest edit among the steps, and `rule` before the first one. -/
def latestRule (rule : String) (steps : List (Tools × Action)) : String :=
  (steps.reverse.findSome? fun step => step.2.rule?).getD rule

end Session

/-! ### Events -/

/-- A recompute: the tools, the texts they were given, and the time. -/
structure Recompute where
  tools : Tools
  source : String
  rule : String
  now : Time

namespace Recompute

/-- The tree that the parser gave. -/
def parsed? (r : Recompute) : Option Value := (r.tools.parse r.source).toOption

/-- The text that the transformer gave, where there is one. -/
def output? (r : Recompute) : Option String :=
  r.tools.transform.bind fun transform => (transform r.source r.rule).toOption

/-- What the user is told: the parser's problem, and where there is none the transformer's. -/
def complaint? (r : Recompute) : Option String :=
  match r.tools.parse r.source, r.tools.transform with
  | .error problem, _ => some problem.message
  | .ok _, none => none
  | .ok _, some transform =>
    match transform r.source r.rule with
    | .error problem => some problem.message
    | .ok _ => none

end Recompute

/-- Something that happens to a session. -/
inductive Event where
  | editSource (source : String) (now : Time)
  | editRule (rule : String) (now : Time)
  | recompute (r : Recompute)
  | tick (now : Time)

namespace Event

/-- The time of an edit. -/
def editTime? : Event → Option Time
  | .editSource _ now => some now
  | .editRule _ now => some now
  | _ => none

/-- The new source text. -/
def source? : Event → Option String
  | .editSource source _ => some source
  | _ => none

/-- The new rule text. -/
def rule? : Event → Option String
  | .editRule rule _ => some rule
  | _ => none

/-- The recompute, if the event is one. -/
def recompute? : Event → Option Recompute
  | .recompute r => some r
  | _ => none

/-- The time of a tick. -/
def tickTime? : Event → Option Time
  | .tick now => some now
  | _ => none

end Event

/-! ### What the steps of a session do to its fields -/

namespace Session

/-- The wording of a recompute's problem. -/
theorem problemOf_eq_complaint? (r : Recompute) :
    problemOf r.tools r.source r.rule = r.complaint? := by
  unfold problemOf Recompute.complaint?
  -- the problem of the parser is the first to be told, then the one of the transform
  cases r.tools.parse r.source with
  | error problem => rfl
  | ok tree =>
    cases r.tools.transform with
    | none => rfl
    | some transform =>
      show complaint (transform r.source r.rule) = match transform r.source r.rule with
        | .error problem => some problem.message
        | .ok _ => none
      cases transform r.source r.rule with
      | error problem => rfl
      | ok output => rfl

/-- The tree and its source after a parse: the new ones if it succeeds, else those from before. -/
theorem keepTree_eq (s : Session) (answer : Except ToolProblem Value) :
    s.keepTree answer =
      { s with
        tree := answer.toOption.or s.tree
        treeSource := (answer.toOption.map fun _ => s.source).or s.treeSource } := by
  cases answer with
  | error problem => rfl
  | ok tree => rfl

/-- The output after a transform: the new one if there is a transform and it succeeds. -/
theorem keepOutput_eq (s : Session) (source rule : String)
    (transform : Option (String → String → Except ToolProblem String)) :
    (match transform with
      | some transform => s.keepOutput (transform source rule)
      | none => s) =
      { s with
        output :=
          (transform.bind fun transform => (transform source rule).toOption).or s.output } := by
  -- without a transform, or with one that fails, the last output stays
  cases transform with
  | none => rfl
  | some transform =>
    show s.keepOutput (transform source rule) =
      { s with output := (transform source rule).toOption.or s.output }
    cases transform source rule with
    | error problem => rfl
    | ok output => rfl

/-- What waits after a recompute: its problem, with a timer that starts if there is one. -/
theorem awaitError_eq (s : Session) (problem : Option String) (now : Time) :
    s.awaitError problem now =
      { s with
        pendingError := problem
        errorDelay := ⟨s.errorDelay.quiet, problem.map fun _ => now + s.errorDelay.quiet⟩ } := by
  cases problem with
  | none => rfl
  | some message => rfl

/-- **A recompute**, field by field. -/
theorem recompute_eq {s : Session} {r : Recompute} (hsource : r.source = s.source)
    (hrule : r.rule = s.rule) :
    s.recompute r.tools r.now =
      { s with
        tree := r.parsed?.or s.tree
        treeSource := (r.parsed?.map fun _ => r.source).or s.treeSource
        output := r.output?.or s.output
        error := none
        pendingError := r.complaint?
        edits := s.edits.cancel
        errorDelay := ⟨s.errorDelay.quiet, r.complaint?.map fun _ => r.now + s.errorDelay.quiet⟩
        generation := s.generation + 1 } := by
  obtain ⟨tools, source, rule, now⟩ := r
  obtain rfl : source = s.source := hsource
  obtain rfl : rule = s.rule := hrule
  -- the three steps of the program: begin, parse, transform
  let begun := { s with edits := s.edits.cancel, generation := s.generation + 1, error := none }
  let parsed := begun.keepTree (tools.parse s.source)
  calc s.recompute tools now
      = awaitError
          { parsed with
            output := (Recompute.output? ⟨tools, s.source, s.rule, now⟩).or parsed.output }
          (problemOf tools s.source s.rule) now :=
        congrArg (awaitError · (problemOf tools s.source s.rule) now)
          (keepOutput_eq parsed s.source s.rule tools.transform)
    _ = _ := by
        rw [problemOf_eq_complaint? ⟨tools, s.source, s.rule, now⟩, awaitError_eq,
          show parsed = _ from keepTree_eq begun (tools.parse s.source)]
        rfl

/-- Before the error's time nothing happens. -/
theorem surfaceError_of_early {s : Session} {now : Time} (h : s.errorDelay.isDue now = false) :
    s.surfaceError now = (false, s) := by
  unfold surfaceError Debounce.poll
  rw [h]
  rfl

/-- When its time has come the waiting error is shown. -/
theorem surfaceError_of_due {s : Session} {message : String} {now : Time}
    (h : s.errorDelay.isDue now = true) (hpending : s.pendingError = some message) :
    s.surfaceError now =
      (true,
        { s with
          errorDelay := s.errorDelay.cancel, pendingError := none, error := some message }) := by
  unfold surfaceError Debounce.poll
  rw [h, hpending]
  rfl

/-- What a session has to show for its recomputes: a tree, its text, and an output. -/
def results (s : Session) : Option Value × Option String × Option String :=
  (s.tree, s.treeSource, s.output)

/-- A look at the clock leaves the results alone. -/
theorem surfaceError_results (s : Session) (now : Time) :
    (s.surfaceError now).2.results = s.results := by
  unfold surfaceError
  rcases s.errorDelay.poll now with ⟨_ | _, errorDelay⟩
  · rfl
  · cases s.pendingError with
    | none => rfl
    | some message => rfl

/-- It leaves the texts being edited alone as well. -/
theorem surfaceError_texts (s : Session) (now : Time) :
    (s.surfaceError now).2.source = s.source ∧ (s.surfaceError now).2.rule = s.rule := by
  unfold surfaceError
  rcases s.errorDelay.poll now with ⟨_ | _, errorDelay⟩
  · exact ⟨rfl, rfl⟩
  · cases s.pendingError with
    | none => exact ⟨rfl, rfl⟩
    | some message => exact ⟨rfl, rfl⟩

/-- A recompute leaves both texts alone. -/
theorem recompute_texts (s : Session) (tools : Tools) (now : Time) :
    (s.recompute tools now).source = s.source ∧ (s.recompute tools now).rule = s.rule := by
  rw [show s.recompute tools now = _ from
    recompute_eq (r := ⟨tools, s.source, s.rule, now⟩) rfl rfl]
  exact ⟨rfl, rfl⟩

/-- So does a tick. -/
theorem tick_texts (s : Session) (tools : Tools) (now : Time) :
    (s.tick tools now).2.source = s.source ∧ (s.tick tools now).2.rule = s.rule := by
  unfold tick
  -- neither half of a tick writes to the texts
  cases s.edits.isDue now with
  | false => exact s.surfaceError_texts now
  | true =>
    obtain ⟨hsource, hrule⟩ := (s.recompute tools now).surfaceError_texts now
    obtain ⟨hsource', hrule'⟩ := s.recompute_texts tools now
    exact ⟨hsource.trans hsource', hrule.trans hrule'⟩

/-- **Step.** An action changes the texts only by the text it brings. -/
theorem act_texts (s : Session) (tools : Tools) (action : Action) :
    (s.act tools action).source = action.source?.getD s.source ∧
      (s.act tools action).rule = action.rule?.getD s.rule := by
  cases action with
  | editSource | editRule => exact ⟨rfl, rfl⟩
  | recompute now => exact s.recompute_texts tools now
  | tick now => exact s.tick_texts tools now

/-- The latest source after one more step in front. -/
theorem latestSource_cons (source : String) (step : Tools × Action)
    (rest : List (Tools × Action)) :
    latestSource source (step :: rest) = latestSource (step.2.source?.getD source) rest := by
  unfold latestSource
  rw [List.reverse_cons, List.findSome?_append, Option.getD_or, List.findSome?_singleton]

/-- The latest rule after one more step in front. -/
theorem latestRule_cons (rule : String) (step : Tools × Action) (rest : List (Tools × Action)) :
    latestRule rule (step :: rest) = latestRule (step.2.rule?.getD rule) rest := by
  unfold latestRule
  rw [List.reverse_cons, List.findSome?_append, Option.getD_or, List.findSome?_singleton]

/-- **Run.** The texts of a session are those of the latest edits. -/
theorem run_texts (s : Session) (steps : List (Tools × Action)) :
    (s.run steps).source = latestSource s.source steps ∧
      (s.run steps).rule = latestRule s.rule steps := by
  induction steps generalizing s with
  | nil => exact ⟨rfl, rfl⟩
  | cons step rest ih =>
    obtain ⟨hsource, hrule⟩ := s.act_texts step.1 step.2
    rw [latestSource_cons, latestRule_cons, ← hsource, ← hrule]
    exact ih (s.act step.1 step.2)

end Session

/-! ### Histories -/

/-- How a session was started, and what has happened since. -/
structure History where
  source : String
  rule : String
  timing : Timing
  /-- The newest event comes first. -/
  events : List Event

namespace History

/-- Nothing has happened yet. -/
def start (source rule : String) (timing : Timing) : History := ⟨source, rule, timing, []⟩

/-- One more event. -/
def add (h : History) (event : Event) : History := { h with events := event :: h.events }

/-- The source text of the latest edit. -/
def currentSource (h : History) : String := (h.events.findSome? Event.source?).getD h.source

/-- The rule text of the latest edit. -/
def currentRule (h : History) : String := (h.events.findSome? Event.rule?).getD h.rule

/-- All recomputes, the latest first. -/
def recomputes (h : History) : List Recompute := h.events.filterMap Event.recompute?

/-- What has happened since the latest recompute. -/
def recent (h : History) : List Event := h.events.takeWhile fun event => event.recompute?.isNone

/-- The time of the latest edit. -/
def lastEdit? (h : History) : Option Time := h.events.findSome? Event.editTime?

/-- Whether there was an edit since the latest recompute. -/
def edited (h : History) : Bool := h.recent.any fun event => event.editTime?.isSome

/-- Whether there is a burst of edits to recompute, and it has been quiet for long enough. -/
def isDue (h : History) (now : Time) : Bool :=
  h.edited && h.lastEdit?.any fun time => time + h.timing.edits ≤ now

/-- What the latest recompute complains of, and from when on it may be shown. -/
def failure? (h : History) : Option (String × Time) :=
  h.recomputes.head?.bind fun r =>
    r.complaint?.map fun message => (message, r.now + h.timing.errors)

/-- Whether some tick since the latest recompute came at `time` or later. -/
def tickedFrom (h : History) (time : Time) : Bool :=
  h.recent.any fun event => event.tickTime?.any (time ≤ ·)

/-- A complaint that no tick came late enough to show. -/
def waiting? (h : History) : Option (String × Time) :=
  h.failure?.filter fun failure => !h.tickedFrom failure.2

/-- A complaint that some tick came late enough to show. -/
def shown? (h : History) : Option (String × Time) :=
  h.failure?.filter fun failure => h.tickedFrom failure.2

/-- The latest recompute whose parser gave a tree: its source text and this tree. -/
def lastParsed? (h : History) : Option (String × Value) :=
  h.recomputes.findSome? fun r => r.parsed?.map fun tree => (r.source, tree)

/-- The text of the latest recompute whose transformer gave one. -/
def lastOutput? (h : History) : Option String := h.recomputes.findSome? Recompute.output?

/-- The tools run on the texts of the latest edits. -/
def recompute (h : History) (tools : Tools) (now : Time) : History :=
  h.add (.recompute ⟨tools, h.currentSource, h.currentRule, now⟩)

/-- One more action.  A tick that is due runs the tools first. -/
def act (h : History) (tools : Tools) : Session.Action → History
  | .editSource source now => h.add (.editSource source now)
  | .editRule rule now => h.add (.editRule rule now)
  | .recompute now => h.recompute tools now
  | .tick now => (if h.isDue now then h.recompute tools now else h).add (.tick now)

/-- Many more actions, each with the tools as they answer at that moment. -/
def run (h : History) (steps : List (Tools × Session.Action)) : History :=
  steps.foldl (fun h step => h.act step.1 step.2) h

/-! ### The session that a history leads to -/

/-- The session that a history leads to. -/
def session (h : History) : Session where
  source := h.currentSource
  rule := h.currentRule
  tree := h.lastParsed?.map Prod.snd
  treeSource := h.lastParsed?.map Prod.fst
  output := h.lastOutput?
  error := h.shown?.map Prod.fst
  pendingError := h.waiting?.map Prod.fst
  edits := ⟨h.timing.edits, if h.edited then h.lastEdit?.map (· + h.timing.edits) else none⟩
  errorDelay := ⟨h.timing.errors, h.waiting?.map Prod.snd⟩
  generation := h.recomputes.length

/-- An empty history is that of a new session. -/
theorem session_start (source rule : String) (timing : Timing) :
    (start source rule timing).session = .start source rule timing := rfl

/-- A history with an edit of the source is that of the session after it. -/
theorem session_add_editSource (h : History) (source : String) (now : Time) :
    (h.add (.editSource source now)).session = h.session.editSource source now := rfl

/-- A history with an edit of the rule is that of the session after it. -/
theorem session_add_editRule (h : History) (rule : String) (now : Time) :
    (h.add (.editRule rule now)).session = h.session.editRule rule now := rfl

/-- The last parse after a recompute: its own if it has one, else that from before. -/
theorem lastParsed?_recompute (h : History) (r : Recompute) :
    (h.add (.recompute r)).lastParsed? =
      (r.parsed?.map fun tree => (r.source, tree)).or h.lastParsed? := by
  unfold lastParsed?
  rw [show (h.add (.recompute r)).recomputes = r :: h.recomputes from rfl, List.findSome?_cons]
  cases r.parsed? with
  | none => rfl
  | some tree => rfl

/-- The last output after a recompute: its own if it has one, else that from before. -/
theorem lastOutput?_recompute (h : History) (r : Recompute) :
    (h.add (.recompute r)).lastOutput? = r.output?.or h.lastOutput? := by
  unfold lastOutput?
  rw [show (h.add (.recompute r)).recomputes = r :: h.recomputes from rfl, List.findSome?_cons]
  cases r.output? with
  | none => rfl
  | some output => rfl

/-- Right after a recompute its complaint waits to be shown. -/
theorem waiting?_recompute (h : History) (r : Recompute) :
    (h.add (.recompute r)).waiting? =
      r.complaint?.map fun message => (message, r.now + h.timing.errors) := by
  show (r.complaint?.map fun message => (message, r.now + h.timing.errors)).filter _ = _
  cases r.complaint? with
  | none => rfl
  | some message => rfl

/-- A recompute takes down the problem that was shown. -/
theorem shown?_recompute (h : History) (r : Recompute) :
    (h.add (.recompute r)).shown? = none := by
  show (r.complaint?.map fun message => (message, r.now + h.timing.errors)).filter _ = _
  cases r.complaint? with
  | none => rfl
  | some message => rfl

/-- A recompute leads to the session of the history with this recompute. -/
theorem session_recompute (h : History) (tools : Tools) (now : Time) :
    (h.recompute tools now).session = h.session.recompute tools now := by
  let r : Recompute := ⟨tools, h.currentSource, h.currentRule, now⟩
  show (h.add (.recompute r)).session = h.session.recompute r.tools r.now
  -- every field of the session, as the history tells it with one recompute more
  rw [Session.recompute_eq (r := r) rfl rfl]
  unfold session
  rw [lastParsed?_recompute, lastOutput?_recompute, waiting?_recompute, shown?_recompute]
  cases r.parsed? with
  | none =>
    cases r.complaint? with
    | none => rfl
    | some message => rfl
  | some tree =>
    cases r.complaint? with
    | none => rfl
    | some message => rfl

/-- The time has come to show a complaint. -/
theorem isDue_errorDelay (h : History) (now : Time) :
    h.session.errorDelay.isDue now = h.waiting?.any fun failure => failure.2 ≤ now := by
  show Debounce.isDue ⟨h.timing.errors, h.waiting?.map Prod.snd⟩ now = _
  cases h.waiting? with
  | none => rfl
  | some failure => rfl

/-- The time has come to recompute. -/
theorem isDue_edits (h : History) (now : Time) : h.session.edits.isDue now = h.isDue now := by
  show Debounce.isDue
    ⟨_, if h.edited then h.lastEdit?.map (· + h.timing.edits) else none⟩ now = _
  unfold isDue
  -- without an edit since the last recompute the timer is not set
  cases h.edited with
  | false => rfl
  | true =>
    cases h.lastEdit? with
    | none => rfl
    | some time => rfl

/-- A complaint that was waiting goes on waiting if the tick comes too early. -/
theorem waiting?_tick (h : History) (now : Time) :
    (h.add (.tick now)).waiting? = h.waiting?.filter fun failure => !decide (failure.2 ≤ now) := by
  unfold waiting?
  rw [Option.filter_filter]
  show h.failure?.filter (fun failure => !(decide (failure.2 ≤ now) || h.tickedFrom failure.2)) = _
  simp only [Bool.not_or, Bool.and_comm]

/-- A complaint that was waiting is shown if the tick comes late enough. -/
theorem shown?_tick (h : History) (now : Time) :
    (h.add (.tick now)).shown? =
      h.shown?.or (h.waiting?.filter fun failure => failure.2 ≤ now) := by
  unfold shown? waiting?
  show h.failure?.filter (fun failure => decide (failure.2 ≤ now) || h.tickedFrom failure.2) = _
  cases h.failure? with
  | none => rfl
  | some failure =>
    -- a failure shown before stays, one that waits is shown from its time on
    cases hticked : h.tickedFrom failure.2 with
    | false => simp [Option.filter, hticked]
    | true => simp [Option.filter, hticked]

/-- A complaint that waits is not shown. -/
theorem shown?_eq_none_of_waiting? {h : History} {failure : String × Time}
    (hwaiting : h.waiting? = some failure) : h.shown? = none := by
  rw [waiting?, Option.filter_eq_some_iff] at hwaiting
  rw [shown?, hwaiting.1]
  have hnot : h.tickedFrom failure.2 = false := by simpa using hwaiting.2
  exact Option.filter_some_neg (by simp [hnot])

/-- A failure that waits in the history is the one that is pending in the session. -/
theorem pendingError_of_waiting? {h : History} {failure : String × Time}
    (hwaiting : h.waiting? = some failure) : h.session.pendingError = some failure.1 := by
  show h.waiting?.map Prod.fst = _
  rw [hwaiting]
  rfl

/-- A tick leads to the session that looks at the clock for its error. -/
theorem session_add_tick (h : History) (now : Time) :
    (h.add (.tick now)).session = (h.session.surfaceError now).2 := by
  have hdue := h.isDue_errorDelay now
  -- nothing waits, or a failure whose time has come, or one whose time has not
  cases hwaiting : h.waiting? with
  | none =>
    rw [hwaiting] at hdue
    rw [Session.surfaceError_of_early hdue]
    unfold session
    rw [waiting?_tick, shown?_tick, hwaiting, Option.filter_none, Option.or_none]
    rfl
  | some failure =>
    rw [hwaiting, Option.any_some] at hdue
    have hpending : h.session.pendingError = some failure.1 := pendingError_of_waiting? hwaiting
    by_cases htime : failure.2 ≤ now
    · rw [decide_eq_true htime] at hdue
      rw [Session.surfaceError_of_due hdue hpending]
      unfold session
      rw [waiting?_tick, shown?_tick, shown?_eq_none_of_waiting? hwaiting, hwaiting,
        Option.filter_some_pos (by simpa using htime),
        Option.filter_some_neg (by simpa using htime)]
      rfl
    · rw [decide_eq_false htime] at hdue
      rw [Session.surfaceError_of_early hdue]
      unfold session
      rw [waiting?_tick, shown?_tick, hwaiting, Option.filter_some_neg (by simpa using htime),
        Option.filter_some_pos (by simpa using htime), Option.or_none]
      rfl

/-- **Step.** Each action leads to the session of the history with this action. -/
theorem session_act (h : History) (tools : Tools) (action : Session.Action) :
    (h.act tools action).session = h.session.act tools action := by
  cases action with
  | editSource source now => exact h.session_add_editSource source now
  | editRule rule now => exact h.session_add_editRule rule now
  | recompute now => exact h.session_recompute tools now
  -- a tick recomputes if the edits are due, and then shows what has waited long enough
  | tick now =>
    rw [act, Session.act, Session.tick, session_add_tick, isDue_edits]
    cases h.isDue now with
    | false => rfl
    | true =>
      show ((h.recompute tools now).session.surfaceError now).2 = _
      rw [session_recompute]
      rfl

/-- **Run.** Every run of a session leads to the session of its history. -/
theorem session_run (h : History) (steps : List (Tools × Session.Action)) :
    (h.run steps).session = h.session.run steps := by
  induction steps generalizing h with
  | nil => rfl
  | cons step rest ih =>
    show ((h.act step.1 step.2).run rest).session = (h.session.act step.1 step.2).run rest
    rw [ih, session_act]

end History

end TreeOutline
