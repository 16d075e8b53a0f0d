import TreeOutline.Text.Quoted
import TreeOutline.Value.Basic
import TreeOutline.Workbench.Debounce
import TreeOutline.Workbench.Problem

namespace TreeOutline

/-!
# Sessions

A session holds the texts being edited, the last good results made of them, and the error that
stands in for the output.  Edits only start a wait; a tick runs the tools once it is over.

* `Tools` — a parser, and a transformer where there is one.  They are handed to every step that
  may run them, so two steps may see different ones.
* `Session` — the state; `Session.start` — a session with nothing computed.
* `Session.editSource`, `editRule`, `recompute`, `tick` — the steps.
* `Session.summary` — the sizes and the state in one line.
-/

/-- The tools a recompute runs, as what they answer. -/
structure Tools where
  parse : (source : String) → Except ToolProblem Value
  transform : Option ((source rule : String) → Except ToolProblem String)

/-- The quiet periods of a session. -/
structure Timing where
  /-- From the last edit to the recompute. -/
  edits : Time
  /-- From a failed recompute to its error being shown. -/
  errors : Time
deriving DecidableEq, Repr

/-- Half a second for edits, three quarters for errors. -/
def Timing.standard : Timing := ⟨500, 750⟩

/-- The state of a session. -/
structure Session where
  source : String
  rule : String
  /-- The last tree that was read. -/
  tree : Option Value
  /-- The text that this tree was read from. -/
  treeSource : Option String
  /-- The last text that was transformed. -/
  output : Option String
  /-- The error that is shown. -/
  error : Option String
  /-- The error that waits to be shown. -/
  pendingError : Option String
  edits : Debounce
  errorDelay : Debounce
  /-- The number of recomputes so far. -/
  generation : Nat
deriving Repr

namespace Session

/-- A session with nothing computed. -/
def start (source rule : String) (timing : Timing) : Session :=
  ⟨source, rule, none, none, none, none, none, .idle timing.edits, .idle timing.errors, 0⟩

/-- Whether an edit waits for a recompute. -/
def isPending (s : Session) : Bool := s.edits.isPending

/-- Replaces the source text and starts the wait again. -/
def editSource (s : Session) (source : String) (now : Time) : Session :=
  { s with source, edits := s.edits.input now }

/-- Replaces the rule text and starts the wait again. -/
def editRule (s : Session) (rule : String) (now : Time) : Session :=
  { s with rule, edits := s.edits.input now }

/-- A new tree replaces the last one, a problem leaves it in place. -/
def keepTree (s : Session) : Except ToolProblem Value → Session
  | .ok tree => { s with tree := some tree, treeSource := some s.source }
  | .error _ => s

/-- A new output replaces the last one, a problem leaves it in place. -/
def keepOutput (s : Session) : Except ToolProblem String → Session
  | .ok output => { s with output := some output }
  | .error _ => s

/-- The wording of a problem. -/
def complaint {α : Type} : Except ToolProblem α → Option String
  | .ok _ => none
  | .error problem => some problem.message

/-- What a recompute complains of: the parser's problem before the transformer's. -/
def problemOf (tools : Tools) (source rule : String) : Option String :=
  (complaint (tools.parse source)).or
    (tools.transform.bind fun transform => complaint (transform source rule))

/-- A complaint waits to be shown; without one there is nothing to wait for. -/
def awaitError (s : Session) (problem : Option String) (now : Time) : Session :=
  { s with
    pendingError := problem
    errorDelay := if problem.isSome then s.errorDelay.input now else s.errorDelay.cancel }

/-- Parses and transforms the texts as they are now. -/
def recompute (s : Session) (tools : Tools) (now : Time) : Session :=
  let begun :=
    { s with edits := s.edits.cancel, generation := s.generation + 1, error := none }
  let parsed := begun.keepTree (tools.parse s.source)
  let transformed :=
    match tools.transform with
    | some transform => parsed.keepOutput (transform s.source s.rule)
    | none => parsed
  transformed.awaitError (problemOf tools s.source s.rule) now

/-- Shows the waiting error once its delay is over; says whether it does. -/
def surfaceError (s : Session) (now : Time) : Bool × Session :=
  match s.errorDelay.poll now with
  | (false, _) => (false, s)
  | (true, errorDelay) =>
    match s.pendingError with
    | some message => (true, { s with errorDelay, pendingError := none, error := some message })
    | none => (false, { s with errorDelay })

/-- Advances the timers; says whether anything that is shown changed. -/
def tick (s : Session) (tools : Tools) (now : Time) : Bool × Session :=
  if s.edits.isDue now then
    let (_, surfaced) := (s.recompute tools now).surfaceError now
    (true, surfaced)
  else s.surfaceError now

/-- The sizes of the texts in bytes, and the state, in one line. -/
def summary (s : Session) : String :=
  let error := match s.error with
    | some message => s!"Some({quoteText message})"
    | none => "None"
  s!"Session \x7b source_len: {s.source.utf8ByteSize}, rule_len: {s.rule.utf8ByteSize}, " ++
    s!"has_tree: {s.tree.isSome}, error: {error}, generation: {s.generation} \x7d"

end Session

end TreeOutline
