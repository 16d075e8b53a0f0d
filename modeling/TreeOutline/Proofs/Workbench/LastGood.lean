import TreeOutline.Proofs.Workbench.Timers

namespace TreeOutline

/-!
# The last good results

A session keeps the last tree that was read, with the text it was read from, and the last text that
was transformed.

* `Session.recompute_of_parses`, `Session.recompute_of_transforms` and their opposites — parsing and
  transforming succeed or fail apart from each other, and a failure leaves what there was.
* `History.IsLatest` — the latest recompute of a history with some property.
* `History.tools_of_mem_recomputes` — in a run with the same tools throughout, all recomputes ran
  them.
* `Session.results_of_latest_success` — in such a run the tree is paired with the text that the
  parser maps to it, that of the latest recompute it parsed, and the output is that of the latest
  texts that were transformed.
-/

/-! ### What a recompute gives -/

/-- The parser maps the text to the tree. -/
def Tools.Parses (tools : Tools) (source : String) (tree : Value) : Prop :=
  tools.parse source = .ok tree

/-- There is a transformer, and it maps the text and the rule to the output. -/
def Tools.Transforms (tools : Tools) (source rule output : String) : Prop :=
  ∃ transform, tools.transform = some transform ∧ transform source rule = .ok output

namespace Recompute

/-- A recompute has a tree where its tools parse its source into it. -/
theorem parsed?_eq_some_iff {r : Recompute} {tree : Value} :
    r.parsed? = some tree ↔ r.tools.Parses r.source tree := by
  unfold parsed? Tools.Parses
  cases r.tools.parse r.source with
  | error problem => simp [Except.toOption]
  | ok other => simp [Except.toOption]

/-- A recompute has an output where its tools make it of its texts. -/
theorem output?_eq_some_iff {r : Recompute} {output : String} :
    r.output? = some output ↔ r.tools.Transforms r.source r.rule output := by
  unfold output? Tools.Transforms
  rw [Option.bind_eq_some_iff]
  refine exists_congr fun transform => and_congr_right fun _ => ?_
  cases transform r.source r.rule with
  | error problem => simp [Except.toOption]
  | ok other => simp [Except.toOption]

end Recompute

namespace Session

/-- A text that is parsed replaces the tree and the text it was read from. -/
theorem recompute_of_parses {s : Session} {tools : Tools} {tree : Value}
    (hparses : tools.Parses s.source tree) (now : Time) :
    (s.recompute tools now).tree = some tree ∧
      (s.recompute tools now).treeSource = some s.source := by
  let r : Recompute := ⟨tools, s.source, s.rule, now⟩
  have hr : r.parsed? = some tree := Recompute.parsed?_eq_some_iff.2 hparses
  rw [show s.recompute tools now = _ from recompute_eq (r := r) rfl rfl, hr]
  exact ⟨rfl, rfl⟩

/-- A text that is not parsed leaves the tree and the text it was read from. -/
theorem recompute_of_not_parses {s : Session} {tools : Tools}
    (hfails : ¬∃ tree, tools.Parses s.source tree) (now : Time) :
    (s.recompute tools now).tree = s.tree ∧
      (s.recompute tools now).treeSource = s.treeSource := by
  let r : Recompute := ⟨tools, s.source, s.rule, now⟩
  have hr : r.parsed? = none := Option.eq_none_iff_forall_ne_some.2 fun tree htree =>
    hfails ⟨tree, Recompute.parsed?_eq_some_iff.1 htree⟩
  rw [show s.recompute tools now = _ from recompute_eq (r := r) rfl rfl, hr]
  exact ⟨rfl, rfl⟩

/-- Texts that are transformed replace the output. -/
theorem recompute_of_transforms {s : Session} {tools : Tools} {output : String}
    (htransforms : tools.Transforms s.source s.rule output) (now : Time) :
    (s.recompute tools now).output = some output := by
  let r : Recompute := ⟨tools, s.source, s.rule, now⟩
  have hr : r.output? = some output := Recompute.output?_eq_some_iff.2 htransforms
  rw [show s.recompute tools now = _ from recompute_eq (r := r) rfl rfl, hr]
  rfl

/-- Texts that are not transformed leave the output. -/
theorem recompute_of_not_transforms {s : Session} {tools : Tools}
    (hfails : ¬∃ output, tools.Transforms s.source s.rule output) (now : Time) :
    (s.recompute tools now).output = s.output := by
  let r : Recompute := ⟨tools, s.source, s.rule, now⟩
  have hr : r.output? = none := Option.eq_none_iff_forall_ne_some.2 fun output houtput =>
    hfails ⟨output, Recompute.output?_eq_some_iff.1 houtput⟩
  rw [show s.recompute tools now = _ from recompute_eq (r := r) rfl rfl, hr]
  rfl

end Session

/-! ### The latest recompute of a kind -/

namespace History

/-- The recompute is the latest one of the history with the property. -/
def IsLatest (h : History) (p : Recompute → Prop) (r : Recompute) : Prop :=
  p r ∧ ∃ later earlier, h.recomputes = later ++ r :: earlier ∧ ∀ other ∈ later, ¬ p other

/-- The latest recompute of some kind is one of the history. -/
theorem IsLatest.mem {h : History} {p : Recompute → Prop} {r : Recompute} (hr : h.IsLatest p r) :
    r ∈ h.recomputes := by
  obtain ⟨-, later, earlier, hsplit, -⟩ := hr
  rw [hsplit]
  exact List.mem_append_right later List.mem_cons_self

/-- A property may be replaced by one that the recomputes of the history have as well. -/
theorem IsLatest.congr {h : History} {p q : Recompute → Prop} {r : Recompute}
    (hr : h.IsLatest p r) (hpq : ∀ other ∈ h.recomputes, p other ↔ q other) : h.IsLatest q r := by
  have hmem : r ∈ h.recomputes := hr.mem
  obtain ⟨hp, later, earlier, hsplit, hlater⟩ := hr
  -- only recomputes of this history are asked
  refine ⟨(hpq r hmem).1 hp, later, earlier, hsplit, fun other hother hq => ?_⟩
  have hin : other ∈ h.recomputes := by
    rw [hsplit]
    exact List.mem_append_left _ hother
  exact hlater other hother ((hpq other hin).2 hq)

/-- What is found first comes from the latest recompute that has it. -/
theorem isLatest_of_findSome? {α : Type} {h : History} {f : Recompute → Option α} {a : α}
    (hfound : h.recomputes.findSome? f = some a) :
    ∃ r, h.IsLatest (fun r => ∃ a, f r = some a) r ∧ f r = some a := by
  obtain ⟨later, r, earlier, hsplit, hr, hlater⟩ := List.findSome?_eq_some_iff.1 hfound
  refine ⟨r, ⟨⟨a, hr⟩, later, earlier, hsplit, fun other hother => ?_⟩, hr⟩
  rintro ⟨b, hb⟩
  rw [hlater other hother] at hb
  exact absurd hb (by simp)

section SameTools

variable {h : History} {tools : Tools} (htools : ∀ r ∈ h.recomputes, r.tools = tools)
include htools

/-- There is a tree exactly when some recompute was parsed. -/
theorem isSome_tree_iff :
    h.session.tree.isSome = true ↔ ∃ r ∈ h.recomputes, ∃ tree, tools.Parses r.source tree := by
  show (h.lastParsed?.map Prod.snd).isSome = true ↔ _
  rw [Option.isSome_map, lastParsed?, List.isSome_findSome?, List.any_eq_true]
  refine exists_congr fun r => and_congr_right fun hr => ?_
  rw [Option.isSome_map, Option.isSome_iff_exists, ← htools r hr]
  exact exists_congr fun _ => Recompute.parsed?_eq_some_iff

/-- Tree and text are those of the latest recompute that was parsed. -/
theorem latest_of_tree {tree : Value} (htree : h.session.tree = some tree) :
    ∃ r, h.IsLatest (fun r => ∃ tree, tools.Parses r.source tree) r ∧
      h.session.treeSource = some r.source ∧ tools.Parses r.source tree := by
  obtain ⟨⟨source, tree⟩, hlast, rfl⟩ := Option.map_eq_some_iff.1 htree
  -- the first recompute with a tree, counted from the latest
  obtain ⟨r, hr, hfound⟩ := isLatest_of_findSome? hlast
  obtain ⟨_, hparsed, hpair⟩ := Option.map_eq_some_iff.1 hfound
  injection hpair with hsource htree'
  subst hsource htree'
  have hparses := Recompute.parsed?_eq_some_iff.1 hparsed
  rw [htools r hr.mem] at hparses
  refine ⟨r, hr.congr fun other hother => ?_, ?_, hparses⟩
  · rw [← htools other hother]
    simp only [Option.map_eq_some_iff, Recompute.parsed?_eq_some_iff]
    exact ⟨fun ⟨_, tree, htree, _⟩ => ⟨tree, htree⟩, fun ⟨tree, htree⟩ => ⟨_, tree, htree, rfl⟩⟩
  · show h.lastParsed?.map Prod.fst = _
    rw [hlast]
    rfl

/-- There is an output exactly when some recompute was transformed. -/
theorem isSome_output_iff :
    h.session.output.isSome = true ↔
      ∃ r ∈ h.recomputes, ∃ output, tools.Transforms r.source r.rule output := by
  show h.lastOutput?.isSome = true ↔ _
  rw [lastOutput?, List.isSome_findSome?, List.any_eq_true]
  refine exists_congr fun r => and_congr_right fun hr => ?_
  rw [Option.isSome_iff_exists, ← htools r hr]
  exact exists_congr fun _ => Recompute.output?_eq_some_iff

/-- The output is that of the latest recompute that was transformed. -/
theorem latest_of_output {output : String} (houtput : h.session.output = some output) :
    ∃ r, h.IsLatest (fun r => ∃ output, tools.Transforms r.source r.rule output) r ∧
      tools.Transforms r.source r.rule output := by
  obtain ⟨r, hr, hfound⟩ := isLatest_of_findSome? (f := Recompute.output?) houtput
  have htransforms := Recompute.output?_eq_some_iff.1 hfound
  rw [htools r hr.mem] at htransforms
  refine ⟨r, hr.congr fun other hother => ?_, htransforms⟩
  rw [← htools other hother]
  exact exists_congr fun _ => Recompute.output?_eq_some_iff

end SameTools

/-- The recomputes of one more action: none or one with the tools of the action. -/
theorem recomputes_act (h : History) (tools : Tools) (action : Session.Action) :
    (h.act tools action).recomputes = h.recomputes ∨
      ∃ now, (h.act tools action).recomputes =
        ⟨tools, h.currentSource, h.currentRule, now⟩ :: h.recomputes := by
  cases action with
  | editSource | editRule => exact .inl rfl
  | recompute now => exact .inr ⟨now, rfl⟩
  | tick now =>
    rw [act]
    -- a tick recomputes only if the edits are due
    cases h.isDue now with
    | false => exact .inl rfl
    | true => exact .inr ⟨now, rfl⟩

/-- In a run with the same tools throughout, all recomputes ran them. -/
theorem tools_of_mem_recomputes {h : History} {tools : Tools}
    (hsame : ∀ r ∈ h.recomputes, r.tools = tools) (actions : List Session.Action) :
    ∀ r ∈ (h.run (actions.map fun action => (tools, action))).recomputes, r.tools = tools := by
  induction actions generalizing h with
  | nil => exact hsame
  | cons action rest ih =>
    refine ih (h := h.act tools action) fun r hr => ?_
    -- an action adds at most one recompute, with the tools of the run
    rcases h.recomputes_act tools action with heq | ⟨now, heq⟩
    · rw [heq] at hr
      exact hsame r hr
    · rw [heq, List.mem_cons] at hr
      rcases hr with rfl | hr
      · rfl
      · exact hsame r hr

end History

/-! ### Runs with the same tools -/

namespace Session

/-- **The last good results.** In any run with the same tools throughout, at any times: there is a
tree exactly when there is a text for it, and when some recompute was parsed; text and tree are then
those of the latest such recompute, and the parser maps the one to the other.  There is an output
exactly when some recompute was transformed, and it is what the transformer makes of the texts of
the latest such recompute; without a transformer there is none.  The next recompute replaces tree
and text if its parser gives a tree, whatever the transformer does, and the output if its
transformer gives one, whatever the parser does; failures replace nothing, nor do edits and ticks
that run no recompute. -/
theorem results_of_latest_success (tools : Tools) (source rule : String) (timing : Timing)
    (actions : List Action) :
    let steps := actions.map fun action => (tools, action)
    let s := (start source rule timing).run steps
    let h := (History.start source rule timing).run steps
    s.tree.isSome = s.treeSource.isSome ∧
      (s.tree.isSome = true ↔ ∃ r ∈ h.recomputes, ∃ tree, tools.Parses r.source tree) ∧
      (∀ tree, s.tree = some tree →
        ∃ r, h.IsLatest (fun r => ∃ tree, tools.Parses r.source tree) r ∧
          s.treeSource = some r.source ∧ tools.Parses r.source tree) ∧
      (s.output.isSome = true ↔
        ∃ r ∈ h.recomputes, ∃ output, tools.Transforms r.source r.rule output) ∧
      (∀ output, s.output = some output →
        ∃ r, h.IsLatest (fun r => ∃ output, tools.Transforms r.source r.rule output) r ∧
          tools.Transforms r.source r.rule output) ∧
      (tools.transform = none → s.output = none) ∧
      (∀ tree now, tools.Parses s.source tree →
        (s.recompute tools now).tree = some tree ∧
          (s.recompute tools now).treeSource = some s.source) ∧
      (∀ now, (¬∃ tree, tools.Parses s.source tree) →
        (s.recompute tools now).tree = s.tree ∧
          (s.recompute tools now).treeSource = s.treeSource) ∧
      (∀ output now, tools.Transforms s.source s.rule output →
        (s.recompute tools now).output = some output) ∧
      (∀ now, (¬∃ output, tools.Transforms s.source s.rule output) →
        (s.recompute tools now).output = s.output) ∧
      (∀ now, (s.tick tools now).2.results =
        if h.isDue now then (s.recompute tools now).results else s.results) ∧
      (∀ text now, (s.editSource text now).results = s.results) ∧
      ∀ text now, (s.editRule text now).results = s.results := by
  intro steps s h
  have hs : s = h.session := run_start source rule timing steps
  -- all recomputes of the run are with the same tools
  have htools : ∀ r ∈ h.recomputes, r.tools = tools :=
    History.tools_of_mem_recomputes (h := .start source rule timing)
      (fun r hr => absurd hr List.not_mem_nil) actions
  refine ⟨?_, ?_, ?_, ?_, ?_, fun hnone => ?_, fun tree now => (recompute_of_parses · now),
    fun now => (recompute_of_not_parses · now), fun output now => (recompute_of_transforms · now),
    fun now => (recompute_of_not_transforms · now), ?_, fun _ _ => rfl, fun _ _ => rfl⟩
  · rw [hs]
    show (h.lastParsed?.map Prod.snd).isSome = (h.lastParsed?.map Prod.fst).isSome
    rw [Option.isSome_map, Option.isSome_map]
  · rw [hs]
    exact History.isSome_tree_iff htools
  · rw [hs]
    exact fun tree => History.latest_of_tree htools
  · rw [hs]
    exact History.isSome_output_iff htools
  · rw [hs]
    exact fun output => History.latest_of_output htools
  · rw [hs]
    refine Option.eq_none_iff_forall_ne_some.2 fun output houtput => ?_
    obtain ⟨_, -, transform, hsome, -⟩ := History.latest_of_output htools houtput
    rw [hnone] at hsome
    exact absurd hsome (by simp)
  · rw [hs]
    exact tick_results h tools

end Session

end TreeOutline
