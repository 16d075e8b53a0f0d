import TreeOutline.Outline.Render
import TreeOutline.Outline.Row
import TreeOutline.Workbench.ActiveKind
import TreeOutline.Workbench.Session

namespace TreeOutline

/-!
# The workbench's model

* `Model` — a session, the display settings, the expansion state, and the rows of the last
  rendering.
* `Model.refresh` — renders the last good tree again; every step that may change what is shown
  ends with it.
* `Model.toggle`, `toggleVariant`, `setActiveKind`, `setRuleCursor`, `tick`, `recompute` — the
  steps.
* `Model.activeSpans`, `highlights` — where the nodes of the active kind stand in the source.
-/

/-- The state behind the screen. -/
structure Model where
  session : Session
  /-- The display rules, without the active kind and the source text. -/
  settings : DisplayRules
  store : ExpansionStore
  rows : List Row
  activeKind : Option String

namespace Model

/-- The rules of the next rendering. -/
def rules (m : Model) : DisplayRules :=
  { m.settings with activeKind := m.activeKind, sourceText := m.session.treeSource }

/-- Renders the last good tree with the current settings. -/
def refresh (m : Model) : Model :=
  let (visual, store) := renderRoot m.rules m.session.tree m.store
  { m with store, rows := visual.rows }

/-- A model of a session; the rows stay empty until it has a tree. -/
def ofSession (session : Session) (settings : DisplayRules) : Model :=
  refresh ⟨session, settings, .empty, [], none⟩

/-- The index of the row with this key. -/
def rowIndex (m : Model) (key : LabelKey) : Option Nat :=
  m.rows.findIdx? fun row => row.key == key

/-- Flips one label; says whether it has a flag to flip. -/
def toggle (m : Model) (key : LabelKey) : Bool × Model :=
  match m.store.toggle key with
  | (some _, store) => (true, { m with store }.refresh)
  | (none, _) => (false, m)

/-- Changes between all fields and the filtered ones. -/
def toggleVariant (m : Model) : Model :=
  { m with settings := { m.settings with variant := m.settings.variant.toggle } }.refresh

/-- Sets the active kind; says whether it is another one. -/
def setActiveKind (m : Model) (kind : Option String) : Bool × Model :=
  if m.activeKind = kind then (false, m) else (true, { m with activeKind := kind }.refresh)

/-- Takes the active kind from a cursor in the rule. -/
def setRuleCursor (m : Model) (offset : Nat) : Bool × Model :=
  m.setActiveKind (activeKindAt m.session.rule offset)

/-- The spans of the active kind's nodes in the last good tree. -/
def activeSpans (m : Model) : List Span :=
  match m.session.tree, m.activeKind with
  | some tree, some kind => tree.spansOf m.settings.tagKeys kind
  | _, _ => []

/-- The spans to mark in the source: none while it is not the text that the tree was read from,
since the offsets do not point into it. -/
def highlights (m : Model) : List Span :=
  if m.session.treeSource = some m.session.source then m.activeSpans else []

/-- Replaces the source text. -/
def editSource (m : Model) (source : String) (now : Time) : Model :=
  { m with session := m.session.editSource source now }

/-- Replaces the rule text. -/
def editRule (m : Model) (rule : String) (now : Time) : Model :=
  { m with session := m.session.editRule rule now }

/-- Advances the session's timers; says whether the screen needs to be drawn again. -/
def tick (m : Model) (tools : Tools) (now : Time) : Bool × Model :=
  match m.session.tick tools now with
  | (true, session) => (true, { m with session }.refresh)
  | (false, session) => (false, { m with session })

/-- Runs the tools now. -/
def recompute (m : Model) (tools : Tools) (now : Time) : Model :=
  { m with session := m.session.recompute tools now }.refresh

end Model

end TreeOutline
