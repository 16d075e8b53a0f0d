import TreeOutline.CommandLine.Print
import TreeOutline.CommandLine.Workbench
import TreeOutline.Proofs.Files.Names
import TreeOutline.Proofs.Outline.Marks
import TreeOutline.Proofs.Workbench.Rows

namespace TreeOutline

/-!
# Printing and opening a tree

The command that prints an outline and the workbench come to the rows of a tree by different ways.
One renders it once, with the source text at hand for snippets; the other renders nothing first,
then what its session has read.

* `Arguments.OnlyGives`, `Files.Readable` — what a command line gives, and which files it needs.
* `printed_eq_outlineText` — the first way: what is printed without further options.
* `Model.linesOf_recompute` — the second way: the rows after the tools have run once.
* `printed_eq_workbench` — **both show the same**, and a source text changes nothing in it.
-/

/-- Rows as lines: two blanks per level, the text of the row, and the end of the line. -/
def linesOf (rows : List Row) : String :=
  String.join (rows.map fun row =>
    String.ofList (List.replicate (2 * row.level) ' ') ++ row.text ++ "\n")

/-- The printed outline is the lines of the rows of a rendering that starts with no flags. -/
theorem outlineText_eq_linesOf (rules : DisplayRules) (tree : Value) :
    outlineText rules tree = linesOf (renderRoot rules (some tree) .empty).1.rows := rfl

/-- An outline does not depend on the source text. -/
theorem outlineText_sourceText (rules : DisplayRules) (source : Option String) (tree : Value) :
    outlineText { rules with sourceText := source } tree = outlineText rules tree :=
  Visual.text_eq_of_dropSnippets
    (renderRoot_remark (rules.agreeUpTo_sourceText source) (some tree) .empty)

/-! ### What is printed -/

/-- No options are given but those with these names. -/
def Arguments.OnlyGives (args : Arguments) (names : List String) : Prop :=
  ∀ option ∈ args.options, option.1 ∈ names

/-- If a file is named, its text can be read. -/
def Files.Readable (files : Files) (name : Option String) : Prop :=
  ∀ path ∈ name, ∃ text, files.readText path = .ok text

/-- An option that is not among those given has no value. -/
theorem Arguments.OnlyGives.value?_eq_none {args : Arguments} {names : List String}
    (h : args.OnlyGives names) {name : String} (hname : name ∉ names) :
    args.value? name = Option.none := by
  have hlookup : args.options.lookup name = Option.none := by
    rw [List.lookup_eq_none_iff]
    intro option hoption
    have hne : name ≠ option.1 := fun heq => hname (heq ▸ h option hoption)
    exact bne_iff_ne.2 hne
  unfold Arguments.value?
  rw [hlookup]
  rfl

/-- Loading from a file is reading its text and then the tree of it, by the format of its path. -/
theorem loadTreeFile_eq_ok {files : Files} {path text : String} {tree : Value}
    (htext : files.readText path = .ok text) (htree : loadTree (.ofPath path) text = .ok tree) :
    loadTreeFile files path none = .ok tree := by
  rw [loadTreeFile, htext]
  exact htree

/-- **Printing without further options.** The outline by the configured rules is printed, whether
or not there is a source text. -/
theorem printed_eq_outlineText {files : Files} {args : Arguments} {path text : String}
    {tree : Value} (config : Config) (hargument : args.argument = some path)
    (hoptions : args.OnlyGives ["source", "config"]) (htext : files.readText path = .ok text)
    (htree : loadTree (.ofPath path) text = .ok tree)
    (hsource : files.Readable (args.value? "source")) :
    printed files args config = .ok (outlineText config.tree.displayRules tree) := by
  have hrules (source : Option String) : printRules config args source =
      { config.tree.displayRules with sourceText := source } := by
    have hvariant : args.value? "variant" = none := hoptions.value?_eq_none (by simp)
    have hdepth : args.value? "depth" = none := hoptions.value?_eq_none (by simp)
    have hwhitelist : args.value? "whitelist" = none := hoptions.value?_eq_none (by simp)
    have hactive : args.value? "active" = none := hoptions.value?_eq_none (by simp)
    unfold printRules Arguments.read?
    rw [hvariant, hdepth, hwhitelist, hactive]
    rfl
  have hformat : args.read? "format" TreeFormat.parse? = none := by
    have hvalue : args.value? "format" = none := hoptions.value?_eq_none (by simp)
    rw [Arguments.read?, hvalue]
    rfl
  have hload : loadTreeFile files (args.argument.getD "") none = .ok tree := by
    rw [hargument]
    exact loadTreeFile_eq_ok htext htree
  -- Rules that know a source text are those without it up to the snippets, which no line shows.
  rw [printed, hformat, hload]
  cases hname : args.value? "source" with
  | none =>
    rw [← outlineText_sourceText config.tree.displayRules none tree, ← hrules]
    rfl
  | some name =>
    obtain ⟨source, hread⟩ := hsource name hname
    rw [← outlineText_sourceText config.tree.displayRules (some source) tree, ← hrules]
    simp only [hread]
    rfl

/-! ### What the workbench shows first -/

/-- A pass without a tree leaves nothing behind. -/
theorem ExpansionStore.flags_renderRoot_none (rules other : DisplayRules) :
    (renderRoot rules none .empty).2.flags other = ExpansionStore.empty.flags other := by
  refine flags_eq_of_peek other fun key => ?_
  rw [peek_renderRoot .empty, peek_empty]
  exact if_neg List.not_mem_nil

/-- **The workbench after the tools have run once** shows the outline by its settings. -/
theorem Model.linesOf_recompute {tools : Tools} {text : String} {tree : Value} (rule : String)
    (timing : Timing) {settings : DisplayRules} (hactive : settings.activeKind = none) (now : Time)
    (hparse : tools.parse text = .ok tree) :
    linesOf ((ofSession (.start text rule timing) settings).recompute tools now).rows =
      outlineText settings tree := by
  let session := (Session.start text rule timing).recompute tools now
  have htree : session.tree = some tree := by
    have hread : session.tree = (tools.parse text).toOption.or none :=
      Session.recompute_tree (.start text rule timing) tools now
    rw [hread, hparse]
    rfl
  -- The store comes from the pass without a tree, the active kind is that of a new model.
  show linesOf (renderRoot { settings with activeKind := none, sourceText := session.treeSource }
    session.tree (renderRoot { settings with activeKind := none, sourceText := none } none
      .empty).2).1.rows = _
  rw [htree, renderRoot_fst, ExpansionStore.flags_renderRoot_none, ← renderRoot_fst, ← hactive,
    ← outlineText_eq_linesOf]
  exact outlineText_sourceText settings session.treeSource tree

/-- With the source file taken for a tree, the workbench opens on its text and reads it by the
format that the file's name suggests. -/
theorem opening_of_tree {files : Files} {args : Arguments} {path text : String} (config : Config)
    (hargument : args.argument = some path) (htree : args.has "tree" = true)
    (htext : files.readText path = .ok text) (hrule : files.Readable (args.value? "rule")) :
    ∃ rule transform, opening files args config =
      .ok ⟨config, text, rule, parseAsTree (.ofPath path), transform⟩ := by
  let transform := config.workbench.transformCommand.map transformByCommand
  have htools : chosenTools args config = .ok ⟨parseAsTree (.ofPath path), transform⟩ := by
    rw [chosenTools, if_pos htree, hargument]
    rfl
  have hsource : files.readText (args.argument.getD "") = .ok text := by
    rw [hargument]
    exact htext
  rw [opening, hsource, htools]
  -- no rule named: its text is empty; a rule named: its file can be read
  cases hname : args.value? "rule" with
  | none => exact ⟨"", transform, rfl⟩
  | some name =>
    obtain ⟨rule, hread⟩ := hrule name hname
    refine ⟨rule, transform, ?_⟩
    simp only [hread]
    rfl

/-- **Both show the same.** Let a command line give a file with a tree, and no options but a source
text that can be read and a configuration.  Then the rows of the workbench's model, after the
file's text was read once as a tree of the format that its name suggests, are printed as lines,
whatever the rule, the delays and the transformer are; so are those of the workbench as it opens on
the file under the same configuration.  Without the source the same is printed, and the command ends
well with it. -/
theorem printed_eq_workbench {files : Files} {args : Arguments} {path text : String} {tree : Value}
    (config : Config) (hargument : args.argument = some path)
    (hoptions : args.OnlyGives ["source", "config"]) (htext : files.readText path = .ok text)
    (htree : loadTree (.ofPath path) text = .ok tree)
    (hsource : files.Readable (args.value? "source")) :
    (∀ rule timing transform now,
      let m := Model.ofSession (.start text rule timing) config.tree.displayRules
      let tools : Tools := ⟨parseAsTree (.ofPath path), transform⟩
      printed files args config = .ok (linesOf (m.recompute tools now).rows)) ∧
    (∀ viewerArgs now, viewerArgs.argument = some path → viewerArgs.has "tree" = true →
      files.Readable (viewerArgs.value? "rule") →
      ∃ opened, opening files viewerArgs config = .ok opened ∧
        printed files args config = .ok (linesOf (opened.model now).rows)) ∧
    printed files args config = printed files ⟨some path, []⟩ config ∧
    ∀ words, printCommand.read words = .ok args →
      (Loader.new.withUserFile (args.value? "config")).build files = .ok config →
      (runPrint files words).code = 0 ∧
        printed files args config = .ok (runPrint files words).stdout := by
  have hprinted : printed files args config =
      .ok (outlineText config.tree.displayRules tree) :=
    printed_eq_outlineText config hargument hoptions htext htree hsource
  have hparse : parseAsTree (.ofPath path) text = .ok tree := by
    rw [parseAsTree, htree]
    rfl
  -- the rows do not depend on the rule, the timing or the transform
  have hmodel (rule : String) (timing : Timing)
      (transform : Option ((source rule : String) → Except ToolProblem String)) (now : Time) :
      let m := Model.ofSession (.start text rule timing) config.tree.displayRules
      let tools : Tools := ⟨parseAsTree (.ofPath path), transform⟩
      printed files args config = .ok (linesOf (m.recompute tools now).rows) := by
    intro m tools
    rw [hprinted, Model.linesOf_recompute rule timing rfl now hparse]
  refine ⟨hmodel, fun viewerArgs now hviewer htreeFlag hrule => ?_, ?_,
    fun words hread hbuild => ?_⟩
  · obtain ⟨rule, transform, hopening⟩ := opening_of_tree config hviewer htreeFlag htext hrule
    exact ⟨_, hopening, hmodel rule _ transform now⟩
  · -- without the option the same lines are printed, since no line shows a snippet
    have hplain : Arguments.OnlyGives ⟨some path, []⟩ ["source", "config"] :=
      fun option hoption => absurd hoption List.not_mem_nil
    have hnone : files.Readable (Arguments.value? ⟨some path, []⟩ "source") :=
      fun name hname => absurd hname (Option.not_mem_none name)
    rw [hprinted, printed_eq_outlineText config rfl hplain htext htree hnone]
  · rw [runPrint, hread]
    simp only [hbuild, hprinted]
    exact ⟨rfl, rfl⟩

/-! ### A leaf and its text -/

/-- A leaf that stands for one character. -/
def leafText : String := "\x7b\"kind\":\"L\",\"start\":0,\"end\":1\x7d"

/-- The leaf, the text it was parsed from, and settings that change nothing. -/
def leafFiles : Files :=
  ⟨[(["t"], encodeText leafText), (["s"], encodeText ";"), (["c"], encodeText "")]⟩

/-- The settings that nothing changes. -/
def leafConfig : Config where
  tree := ⟨.filtered, 1, ["name", "value", "kind", "operator"], .standard⟩
  workbench := ⟨500, 750, none, none⟩
  logging := ⟨"info", "astv.log"⟩

/-- Each of the three files is found where it is looked for. -/
theorem leafFiles_locate : leafFiles.locate "t" = .ok ["t"] ∧ leafFiles.locate "s" = .ok ["s"] ∧
    leafFiles.locate "c" = .ok ["c"] :=
  ⟨leafFiles.locate_of_partsOf (by cbv) (by decide) (by decide) (by decide),
    leafFiles.locate_of_partsOf (by cbv) (by decide) (by decide) (by decide),
    leafFiles.locate_of_partsOf (by cbv) (by decide) (by decide) (by decide)⟩

/-- The tree file holds the tree's text. -/
theorem leafFiles_tree : leafFiles.readText "t" = .ok leafText :=
  Files.readText_of_lookup leafFiles_locate.1 (by decide) (by cbv) rfl (by cbv)

/-- The source file holds a semicolon. -/
theorem leafFiles_source : leafFiles.readText "s" = .ok ";" :=
  Files.readText_of_lookup leafFiles_locate.2.1 (by decide) (by cbv) rfl (by cbv)

/-- The settings file builds a configuration with a snippet length of its own. -/
theorem leafFiles_settings :
    (Loader.new.withUserFile (some "c")).build leafFiles = .ok leafConfig := by
  have htext : leafFiles.readText "c" = .ok "" :=
    Files.readText_of_lookup leafFiles_locate.2.2 (by decide) (by cbv) rfl (by cbv)
  have hfound : Loader.findFile leafFiles "c" = some "c" := by
    have hfile : leafFiles.isFile "c" = true := by
      rw [Files.isFile, leafFiles_locate.2.2]
      cbv
    rw [Loader.findFile, if_pos hfile]
  have hread : Toml.read? "" = some [] := by cbv
  -- an empty file lies over the defaults without a change
  have hadd : Loader.addFile leafFiles Config.defaults (.file "c" true) = .ok Config.defaults := by
    simp only [Loader.addFile, hfound, htext, Except.map, hread]
    rfl
  have hlayers : [Layer.file "c" true].foldlM (Loader.addFile leafFiles) Config.defaults =
      .ok Config.defaults := by
    rw [List.foldlM_cons, hadd]
    rfl
  have hsettings :
      (Loader.new.withUserFile (some "c")).settings leafFiles = .ok Config.defaults := by
    have hfile : (Loader.new.withUserFile (some "c")).layers = [.file "c" true] := rfl
    rw [Loader.settings, hfile, hlayers]
    rfl
  rw [Loader.build, hsettings]
  show Config.ofSetting Config.defaults = .ok leafConfig
  unfold leafConfig
  cbv

/-- The snippet is cut from the source text in one way and from the tree's own text in the other;
what is printed is the same. -/
theorem printed_eq_workbench_leaf :
    let args : Arguments := ⟨some "t", [("source", some "s"), ("config", some "c")]⟩
    let viewerArgs : Arguments := ⟨some "t", [("tree", none)]⟩
    let words := ["t", "-s", "s", "-c", "c"]
    let m := Model.ofSession (.start leafText "" .standard) leafConfig.tree.displayRules
    let tools : Tools := ⟨parseAsTree (.ofPath "t"), none⟩
    let tree : Value := .map [("kind", .str "L"), ("start", .int 0), ("end", .int 1)]
    args.OnlyGives ["source", "config"] ∧ leafFiles.readText "t" = .ok leafText ∧
      loadTree (.ofPath "t") leafText = .ok tree ∧ leafFiles.Readable (args.value? "source") ∧
      printed leafFiles args leafConfig = .ok "L -\n  kind: \"L\"\n" ∧
      printed leafFiles args leafConfig = .ok (linesOf (m.recompute tools 0).rows) ∧
      (∃ opened, opening leafFiles viewerArgs leafConfig = .ok opened ∧
        printed leafFiles args leafConfig = .ok (linesOf (opened.model 0).rows)) ∧
      printed leafFiles args leafConfig = printed leafFiles ⟨some "t", []⟩ leafConfig ∧
      printed leafFiles args leafConfig = .ok (runPrint leafFiles words).stdout ∧
      (renderRoot (printRules leafConfig args (some ";")) (some tree) .empty).1.rows.map
        Row.snippet = [some ";", none] ∧
      (m.recompute tools 0).rows.map Row.snippet = [some "\x7b", none] := by
  intro args viewerArgs words m tools tree
  have hoptions : args.OnlyGives ["source", "config"] := by
    intro option hoption
    rcases List.mem_cons.1 hoption with rfl | hoption
    · decide
    · rw [List.mem_singleton.1 hoption]
      decide
  have htree : loadTree (.ofPath "t") leafText = .ok tree := by
    unfold tree
    cbv
  have hsource : leafFiles.Readable (args.value? "source") := by
    intro path hpath
    rw [← Option.mem_some_iff.1 hpath]
    exact ⟨";", leafFiles_source⟩
  have hrule : leafFiles.Readable (viewerArgs.value? "rule") :=
    fun path hpath => absurd hpath (Option.not_mem_none path)
  have hwords : printCommand.read words = .ok args := by
    unfold words args
    cbv
  obtain ⟨hmodel, hopened, hplain, hrun⟩ :=
    printed_eq_workbench leafConfig rfl hoptions leafFiles_tree htree hsource
  refine ⟨hoptions, leafFiles_tree, htree, hsource, ?_, hmodel "" .standard none 0,
    hopened viewerArgs 0 rfl rfl hrule, hplain, (hrun words hwords leafFiles_settings).2, ?_, ?_⟩
  · -- what is compared is not empty, and the two rows differ in their snippets
    rw [printed_eq_outlineText leafConfig rfl hoptions leafFiles_tree htree hsource]
    unfold tree
    cbv
  · unfold tree args
    cbv
  · unfold m tools
    cbv

end TreeOutline
