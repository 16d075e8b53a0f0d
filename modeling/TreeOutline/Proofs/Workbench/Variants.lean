import TreeOutline.Proofs.Outline.Wider
import TreeOutline.Proofs.Workbench.Rows

namespace TreeOutline

/-!
# All fields and back again

A look at all fields does no harm to a filtered outline.

* `Fresh.toggleVariant_kept` — the filtered rows are among those of all fields, with their flags.
* `Fresh.toggleVariant_toggleVariant` — back at the filtered fields, everything is as it was.
* `Model.run_toggleVariant_twice` — so it is in every run of the workbench.
-/

namespace Model

variable {m : Model}

/-- The rows after the variant has been switched are rendered from the same flags. -/
theorem rows_toggleVariant (m : Model) :
    m.toggleVariant.rows = (renderRoot m.toggleVariant.rules m.session.tree m.store).1.rows := rfl

/-- So is the store. -/
theorem store_toggleVariant (m : Model) :
    m.toggleVariant.store = (renderRoot m.toggleVariant.rules m.session.tree m.store).2 := rfl

/-- Changing the variant twice restores the rules. -/
theorem rules_toggleVariant_twice (m : Model) : m.toggleVariant.toggleVariant.rules = m.rules := by
  show ({ m.rules with variant := m.settings.variant.toggle.toggle } : DisplayRules) = m.rules
  rw [Variant.toggle_toggle]
  rfl

/-- Switching to all fields widens the rules. -/
theorem widens_toggleVariant (hfiltered : m.settings.variant = .filtered) :
    m.toggleVariant.rules.Widens m.rules := by
  refine DisplayRules.widens_of_all rfl ?_
  show m.settings.variant.toggle = .all
  rw [hfiltered]
  rfl

namespace Fresh

/-- **There.** Among all fields the filtered rows stand in their order, each with its level and, if
it has a toggle, the flag of the store. -/
theorem toggleVariant_kept (h : m.Fresh) (hfiltered : m.settings.variant = .filtered) :
    List.SublistForall₂ (Row.KeptAs (m.store.flags m.rules) (m.store.flags m.rules)) m.rows
      m.toggleVariant.rows := by
  have hflags : m.store.flags m.toggleVariant.rules = m.store.flags m.rules :=
    ExpansionStore.flags_eq_of_openDepth rfl m.store
  rw [rows_toggleVariant, renderRoot_fst, hflags, h.rows_eq, ← rows_viewRoot]
  exact rows_viewRoot_kept (widens_toggleVariant hfiltered) (fun _ => id) m.session.tree

/-- **And back.** The filtered rows and the snapshot are as they were. -/
theorem toggleVariant_toggleVariant (h : m.Fresh) (hfiltered : m.settings.variant = .filtered) :
    m.toggleVariant.toggleVariant.rows = m.rows ∧
      m.toggleVariant.toggleVariant.store.snapshot = m.store.snapshot := by
  have hwider : m.toggleVariant.rules.Widens m.rules := widens_toggleVariant hfiltered
  constructor
  · rw [rows_toggleVariant, rules_toggleVariant_twice, store_toggleVariant, renderRoot_fst,
      h.rows_eq, ← rows_viewRoot]
    -- the wider pass keeps the flags of all keys the narrower one asks for
    exact congrArg Visual.rows (h.settled.seenBounded.viewRoot_detour hwider rfl)
  · rw [store_toggleVariant, rules_toggleVariant_twice, store_toggleVariant]
    exact ExpansionStore.snapshot_eq_iff.2 (h.settled.peek_detour hwider rfl)

end Fresh

/-- **Looking at all fields loses nothing.** After any actions, at any times and with tools that
answer as they like, a model that shows the filtered fields shows them again after two changes of
the variant, with the same rows and the same snapshot.  In between, its rows stand among those of
all fields: with the same keys and levels, in the same order, and open or closed as before. -/
theorem run_toggleVariant_twice (session : Session) (settings : DisplayRules)
    (actions : List Action)
    (hfiltered : ((ofSession session settings).run actions).settings.variant = .filtered) :
    let m := (ofSession session settings).run actions
    m.toggleVariant.toggleVariant.rows = m.rows ∧
      m.toggleVariant.toggleVariant.store.snapshot = m.store.snapshot ∧
      ∃ kept, kept.Sublist m.toggleVariant.rows ∧
        List.Forall₂ (fun row other => other.key = row.key ∧ other.level = row.level ∧
          (row.toggle.isToggleable = true → other.toggle = row.toggle)) m.rows kept := by
  intro m
  have hfresh : m.Fresh := (fresh_ofSession session settings).run actions
  obtain ⟨hrows, hsnapshot⟩ := hfresh.toggleVariant_toggleVariant hfiltered
  -- the rows kept on the way there, each of them with its row in the filtered view
  obtain ⟨kept, hforall, hsublist⟩ :=
    List.sublistForall₂_iff.1 (hfresh.toggleVariant_kept hfiltered)
  refine ⟨hrows, hsnapshot, kept, hsublist, hforall.imp fun row other hkept => ?_⟩
  refine ⟨hkept.key, hkept.level, fun htoggle => ?_⟩
  obtain ⟨hrow, hother⟩ := hkept.toggle htoggle
  rw [hrow, hother]

/-! ### A leaf with a field to look at -/

/-- The numbered tree is shown to any depth, and its body closed. -/
def closedBody : List Action := [.recompute numberedTools 0, .toggle ⟨.group, [.field "body"]⟩]

def closedBodyModel : Model :=
  (ofSession (.start "" "" .standard) { DisplayRules.standard with openDepth := 9 }).run closedBody

/-- Among all fields the leaf can be opened and has a row below it, and so has the root; the body
stays closed, and none of this is left when the fields are filtered again. -/
theorem run_toggleVariant_twice_leaf :
    closedBodyModel.settings.variant = .filtered ∧
      closedBodyModel.rows.map Row.key =
        [⟨.node, []⟩, ⟨.group, [.field "0"]⟩, ⟨.node, [.field "0"]⟩, ⟨.group, [.field "body"]⟩] ∧
      closedBodyModel.toggleVariant.rows.map Row.key =
        [⟨.node, []⟩, ⟨.group, [.field "type"]⟩, ⟨.group, [.field "0"]⟩, ⟨.node, [.field "0"]⟩,
          ⟨.group, [.field "0", .field "type"]⟩, ⟨.group, [.field "body"]⟩] ∧
      closedBodyModel.toggleVariant.toggleVariant.rows = closedBodyModel.rows ∧
      closedBodyModel.toggleVariant.toggleVariant.store.snapshot =
        closedBodyModel.store.snapshot := by
  have hfiltered : closedBodyModel.settings.variant = .filtered := by cbv
  obtain ⟨hrows, hsnapshot, -⟩ := run_toggleVariant_twice (.start "" "" .standard)
    { DisplayRules.standard with openDepth := 9 } closedBody hfiltered
  exact ⟨hfiltered, by cbv, by cbv, hrows, hsnapshot⟩

end Model

end TreeOutline
