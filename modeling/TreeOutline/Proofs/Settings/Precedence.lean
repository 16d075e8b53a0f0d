import TreeOutline.Proofs.Files.Names
import TreeOutline.Proofs.Settings.Leaves
import TreeOutline.Proofs.Text.Utf8
import TreeOutline.Settings.Loader

namespace TreeOutline

/-!
# Which layer a setting comes from

The layers of a loader put values at addresses, those of the files first.  Seen from one leaf, each
of these values replaces what stood there, is merged into it, or has nothing to do with it.

* `Assignment`, `Assignment.leaf?_apply` — a value at an address, and what it changes;
  `Assignment.leaf?_foldl_apply` — what many of them change.
* `Layer.fileSettings`, `Loader.singles`, `Loader.settings_eq_ok` — what the layers put where.
* `Loader.valuesAt_singleSettings` — of the single settings at an address the last one is left.
* `Loader.SetsLeaves`, `Loader.GivesTables` — loaders that are made with keys of leaves only, and
  files that give sections as tables.
* `Loader.source?` — the last single setting for a leaf, otherwise the last one in a file, otherwise
  the default.
* `Loader.build_precedence` — **this is what the configuration has.**
-/

/-! ### Values at addresses -/

/-- A value that is put at an address, and the file that it comes from. -/
structure Assignment where
  origin : Option String
  path : KeyPath
  value : Value

namespace Assignment

/-- Puts the value over settings. -/
def apply (base : Setting) (a : Assignment) : Setting :=
  Setting.setAt a.path (.ofValue a.origin a.value) base

/-- A value whose address leads into a section is this section as a table, or one of its fields. -/
def Fits (a : Assignment) : Prop :=
  a.path.top ∈ sectionNames → (∃ name fields, a.path = .root name ∧ a.value = .map fields) ∨
    ∃ name field, a.path = .child (.root name) field

/-- The settings that the value gives for a leaf. -/
def gives (a : Assignment) (leaf : Leaf) : List Setting :=
  match a.path, a.value with
  | .root name, .map fields =>
    if plainLower name = leaf.sectionName then
      Setting.named leaf.fieldName (Setting.ofFields a.origin fields)
    else []
  | .child (.root name) field, value =>
    if plainLower name = leaf.sectionName ∧ plainLower field = leaf.fieldName then
      [.ofValue a.origin value]
    else []
  | _, _ => []

/-- An assignment in another section gives a setting nothing. -/
theorem gives_of_ne {a : Assignment} {leaf : Leaf} (h : a.path.top ≠ leaf.sectionName) :
    a.gives leaf = [] := by
  unfold gives
  split
  · next hpath _ => exact if_neg (by simpa [hpath, KeyPath.top] using h)
  · next hpath => exact if_neg fun hnames => h (by simpa [hpath, KeyPath.top] using hnames.1)
  · rfl

/-- What a value does to the section that it leads into. -/
theorem child?_apply {a : Assignment} (ha : a.Fits) {base : Setting} (hbase : base.HasSections)
    {name : String} (hname : name ∈ sectionNames) (htop : a.path.top = name) :
    ∃ before after, base.child? name = some before ∧ (apply base a).child? name = some after ∧
      after.IsTable ∧ ∀ leaf : Leaf, leaf.sectionName = name → after.child? leaf.fieldName =
        Setting.overlayAll (before.child? leaf.fieldName) (a.gives leaf) := by
  obtain ⟨before, hbefore, htable⟩ := hbase.sections name hname
  obtain ⟨origin, path, value⟩ := a
  obtain ⟨root, fields, rfl, rfl⟩ | ⟨root, field, rfl⟩ := ha (htop ▸ hname)
  · -- the section as a table
    obtain rfl : plainLower root = name := htop
    refine ⟨before, Setting.mergeAll before (Setting.ofFields origin fields), hbefore, ?_,
      htable.mergeAll _, fun leaf hleaf => ?_⟩
    · show (Setting.setAt (.root root) _ base).child? _ = _
      rw [Setting.child?_setAt_root, hbefore]
      rfl
    · rw [Setting.child?_mergeAll]
      simp only [gives, hleaf, if_true]
  · -- one of its fields
    obtain rfl : plainLower root = name := htop
    refine ⟨before, before.merge field (.ofValue origin value), hbefore, ?_,
      Setting.isTable_merge _ _ _, fun leaf hleaf => ?_⟩
    · show (Setting.setAt (.child (.root root) field) _ base).child? _ = _
      rw [Setting.child?_setAt_child, hbefore]
      rfl
    · rw [Setting.child?_merge]
      by_cases hfield : plainLower field = leaf.fieldName <;>
        simp [gives, hleaf, hfield, Setting.overlayAll]

/-- A value keeps the sections. -/
theorem hasSections_apply {a : Assignment} (ha : a.Fits) {base : Setting}
    (hbase : base.HasSections) : (apply base a).HasSections := by
  refine ⟨Setting.isTable_setAt _ _ base, fun name hname => ?_⟩
  -- the section assigned to stays a table, and the others are not touched
  by_cases htop : a.path.top = name
  · obtain ⟨-, after, -, hafter, htable, -⟩ := child?_apply ha hbase hname htop
    exact ⟨after, hafter, htable⟩
  · show ∃ inner, (Setting.setAt a.path _ base).child? name = some inner ∧ inner.IsTable
    rw [Setting.child?_setAt_of_ne htop]
    exact hbase.sections name hname

/-- A value changes a leaf by what it gives for it. -/
theorem leaf?_apply {a : Assignment} (ha : a.Fits) {base : Setting} (hbase : base.HasSections)
    (leaf : Leaf) :
    (apply base a).leaf? leaf = Setting.overlayAll (base.leaf? leaf) (a.gives leaf) := by
  -- in the leaf's own section the assignment lies over it, elsewhere it gives nothing
  by_cases htop : a.path.top = leaf.sectionName
  · obtain ⟨before, after, hbefore, hafter, -, hleaf⟩ :=
      child?_apply ha hbase leaf.sectionName_mem htop
    rw [Setting.leaf?, Setting.leaf?, hbefore, hafter]
    exact hleaf leaf rfl
  · rw [gives_of_ne htop, Setting.leaf?, apply, Setting.child?_setAt_of_ne htop]
    rfl

/-- Many values change a leaf by all that they give for it, one after the other. -/
theorem leaf?_foldl_apply {all : List Assignment} (hall : ∀ a ∈ all, a.Fits) {base : Setting}
    (hbase : base.HasSections) : (all.foldl apply base).HasSections ∧ ∀ leaf,
      (all.foldl apply base).leaf? leaf =
        Setting.overlayAll (base.leaf? leaf) (all.flatMap (gives · leaf)) := by
  -- from the first assignment on: what each one leaves is the next one's base
  induction all generalizing base with
  | nil => exact ⟨hbase, fun leaf => rfl⟩
  | cons a rest ih =>
    obtain ⟨ha, hrest⟩ := List.forall_mem_cons.1 hall
    obtain ⟨hsections, hleaf⟩ := ih hrest (hasSections_apply ha hbase)
    refine ⟨hsections, fun leaf => ?_⟩
    rw [List.foldl_cons, hleaf, leaf?_apply ha hbase, List.flatMap_cons]
    simp only [Setting.overlayAll, List.foldl_append]

end Assignment

/-! ### What the layers put where -/

/-- The settings in the file of a layer; none where there is no such file or it cannot be read. -/
def Layer.fileSettings (files : Files) : Layer → List Assignment
  | .setting .. => []
  | .file name _ =>
    match Loader.findFile files name with
    | none => []
    | some found =>
      match (files.readText found).map Toml.read? with
      | .ok (some settings) => settings.map fun (name, value) =>
        { origin := some ("/".intercalate (Files.partsOf found))
          path := (KeyPath.parse? name).getD (.root name)
          value }
      | _ => []

/-- The value that a layer has at an address as a single setting. -/
def Layer.valueAt? (path : KeyPath) : Layer → Option Value
  | .setting other value => if other = path then some value else none
  | .file .. => none

namespace Loader

/-- A file that is added is its assignments, applied one after the other. -/
theorem addFile_eq_ok {files : Files} {base result : Setting} {layer : Layer}
    (h : addFile files base layer = .ok result) :
    result = (layer.fileSettings files).foldl Assignment.apply base := by
  cases layer with
  | setting path value => exact (Except.ok.inj h).symm
  | file name required =>
    simp only [addFile] at h
    simp only [Layer.fileSettings]
    cases hfound : findFile files name with
    -- not found: a required file is a problem, an optional one assigns nothing
    | none => cases required <;> simp_all
    | some found =>
      simp only [hfound] at h ⊢
      cases hread : (files.readText found).map Toml.read? with
      -- found and not readable: as if it were not there
      | error problem => cases required <;> simp_all
      | ok content =>
        simp only [hread] at h ⊢
        cases content with
        | none => cases h
        | some settings =>
          rw [List.foldl_map]
          exact (Except.ok.inj h).symm

/-- The files put their settings over the base, layer by layer. -/
theorem foldlM_addFile_eq_ok {files : Files} {layers : List Layer} {base result : Setting}
    (h : layers.foldlM (addFile files) base = .ok result) :
    result = (layers.flatMap (·.fileSettings files)).foldl Assignment.apply base := by
  -- a run that ends well went well at every layer
  induction layers generalizing base with
  | nil => exact (Except.ok.inj h).symm
  | cons layer rest ih =>
    rw [List.foldlM_cons] at h
    obtain ⟨next, hnext, hrest⟩ := exists_of_bind_eq_ok h
    rw [List.flatMap_cons, List.foldl_append, ← addFile_eq_ok hnext]
    exact ih hrest

/-- The single settings of the layers, as values at addresses. -/
def singles (loader : Loader) : List Assignment :=
  (singleSettings loader.layers).map fun (path, value) => ⟨none, path, value⟩

/-- First the files put their settings, then come the single settings. -/
theorem settings_eq_ok {loader : Loader} {files : Files} {result : Setting}
    (h : loader.settings files = .ok result) :
    result = (loader.layers.flatMap (·.fileSettings files) ++ loader.singles).foldl
      Assignment.apply Config.defaults := by
  obtain ⟨base, hbase, hresult⟩ := exists_of_bind_eq_ok h
  rw [List.foldl_append, ← foldlM_addFile_eq_ok hbase, singles, List.foldl_map]
  exact (Except.ok.inj hresult).symm

/-! ### Single settings -/

/-- The values at an address. -/
def valuesAt (path : KeyPath) (settings : List (KeyPath × Value)) : List Value :=
  (settings.filter (·.1 = path)).map Prod.snd

/-- What a path is set to after a single setting: the new value takes the place of the one before.
-/
theorem valuesAt_putSetting (path other : KeyPath) (value : Value)
    (settings : List (KeyPath × Value)) :
    valuesAt path (putSetting other value settings) =
      if other = path then value :: (valuesAt path settings).tail else valuesAt path settings := by
  induction settings with
  | nil => by_cases h : other = path <;> simp [putSetting, valuesAt, h]
  | cons setting rest ih =>
    obtain ⟨known, old⟩ := setting
    simp only [valuesAt] at ih
    rw [putSetting]
    -- the new value stands in the old one's place, so it comes first at its own path
    by_cases hknown : known = other
    · subst hknown
      by_cases h : known = path <;> simp [valuesAt, h]
    · rw [if_neg hknown]
      by_cases h : known = path
      · subst h
        simp [valuesAt, ih, Ne.symm hknown]
      · simp [valuesAt, ih, h]

/-- Of the single settings at an address the last one is left. -/
theorem valuesAt_singleSettings (path : KeyPath) (layers : List Layer) :
    valuesAt path (singleSettings layers) =
      (layers.filterMap (·.valueAt? path)).getLast?.toList := by
  -- from the end: at its own address a layer replaces whatever the layers before it left
  induction layers using List.reverseRecOn with
  | nil => rfl
  | append_singleton layers layer ih =>
    have hsettings : singleSettings (layers ++ [layer]) =
        match layer with
        | .setting other value => putSetting other value (singleSettings layers)
        | .file .. => singleSettings layers := by
      rw [singleSettings, List.foldl_append]
      cases layer <;> rfl
    rw [hsettings]
    cases layer with
    | file name required => simpa [Layer.valueAt?] using ih
    | setting other value =>
      rw [valuesAt_putSetting, ih]
      by_cases h : other = path
      · have htail (last : Option Value) : last.toList.tail = [] := by cases last <;> rfl
        simp [Layer.valueAt?, h, htail]
      · simp [Layer.valueAt?, h]

/-- Only the addresses of layers have single settings. -/
theorem mem_putSetting {path other : KeyPath} {value old : Value}
    {settings : List (KeyPath × Value)} (h : (path, old) ∈ putSetting other value settings) :
    path = other ∨ ∃ value, (path, value) ∈ settings := by
  induction settings with
  | nil => grind [putSetting]
  | cons setting rest ih => grind [putSetting]

/-- Each single setting comes from a layer. -/
theorem mem_singleSettings {path : KeyPath} {value : Value} {layers : List Layer}
    (h : (path, value) ∈ singleSettings layers) : ∃ value, .setting path value ∈ layers := by
  -- from the last layer back, as a later setting takes an earlier one's place
  induction layers using List.reverseRecOn generalizing value with
  | nil => cases h
  | append_singleton layers layer ih =>
    rw [singleSettings, List.foldl_append] at h
    cases layer with
    | file name required =>
      obtain ⟨value, hvalue⟩ := ih h
      exact ⟨value, List.mem_append_left _ hvalue⟩
    | setting other new =>
      obtain rfl | ⟨old, hold⟩ := mem_putSetting h
      · exact ⟨new, List.mem_append_right _ (List.mem_singleton_self _)⟩
      · obtain ⟨value, hvalue⟩ := ih hold
        exact ⟨value, List.mem_append_left _ hvalue⟩

/-! ### Loaders -/

/-- The loaders that come from the empty one by adding files, and single settings for leaves, whose
keys may be written in letters of any case. -/
inductive SetsLeaves : Loader → Prop
  | new : SetsLeaves .new
  | withFile {loader : Loader} (name : String) :
    SetsLeaves loader → SetsLeaves (loader.withFile name)
  | withOptionalFile {loader : Loader} (name : String) :
    SetsLeaves loader → SetsLeaves (loader.withOptionalFile name)
  | withUserFile {loader : Loader} (name : Option String) :
    SetsLeaves loader → SetsLeaves (loader.withUserFile name)
  | set {loader next : Loader} {key : String} {value : Value} (leaf : Leaf) :
    SetsLeaves loader → asciiLower key = leaf.key → loader.set? key value = .ok next →
    SetsLeaves next

/-- The files of the layers give sections as tables. -/
def GivesTables (loader : Loader) (files : Files) : Prop :=
  ∀ layer ∈ loader.layers, ∀ a ∈ layer.fileSettings files, a.Fits

/-- A single setting for a leaf can always be added. -/
theorem set?_leaf (loader : Loader) {key : String} {leaf : Leaf} (h : asciiLower key = leaf.key)
    (value : Value) :
    loader.set? key value = .ok ⟨loader.layers ++ [.setting leaf.path value]⟩ := by
  rw [set?, h, leaf.parse?_key]

/-- A loader that sets only known settings has the path of one in each layer. -/
theorem SetsLeaves.path_eq {loader : Loader} (h : loader.SetsLeaves) {path : KeyPath}
    {value : Value} (hlayer : .setting path value ∈ loader.layers) :
    ∃ leaf : Leaf, path = leaf.path := by
  -- files are no single settings, so adding one changes nothing here
  have hfile {layers : List Layer} {name : String} {required : Bool}
      (hmem : .setting path value ∈ layers ++ [.file name required]) :
      .setting path value ∈ layers := by simpa using hmem
  induction h with
  | new => cases hlayer
  | withFile name _ ih => exact ih (hfile hlayer)
  | withOptionalFile name _ ih => exact ih (hfile hlayer)
  | withUserFile name _ ih => cases name <;> exact ih (hfile hlayer)
  | set leaf _ hkey hset ih =>
    rw [set?_leaf _ hkey, Except.ok.injEq] at hset
    subst hset
    rcases List.mem_append.1 hlayer with hlayer | hlayer
    · exact ih hlayer
    · rw [List.mem_singleton, Layer.setting.injEq] at hlayer
      exact ⟨leaf, hlayer.1⟩

/-- The last single setting for a leaf. -/
def single? (loader : Loader) (leaf : Leaf) : Option Setting :=
  (loader.layers.filterMap (·.valueAt? leaf.path)).getLast?.map (.ofValue none)

/-- What the files give for a leaf, file by file. -/
def fromFiles (loader : Loader) (files : Files) (leaf : Leaf) : List Setting :=
  (loader.layers.flatMap (·.fileSettings files)).flatMap (·.gives leaf)

/-- What stands for a leaf: the last single setting, otherwise the last one that the files give,
otherwise the default.  Tables without entries do not count. -/
def source? (loader : Loader) (files : Files) (leaf : Leaf) : Option Setting :=
  (((loader.single? leaf).filter Setting.Counts).map (Setting.overlay none)).or
    ((((loader.fromFiles files leaf).filter Setting.Counts).getLast?.map (Setting.overlay none)).or
      (Config.defaults.leaf? leaf))

/-- A value at the address of a leaf is given for this leaf alone. -/
theorem gives_path (leaf other : Leaf) (value : Value) :
    (⟨none, other.path, value⟩ : Assignment).gives leaf =
      if other.path = leaf.path then [.ofValue none value] else [] := by
  simp only [Assignment.gives, Leaf.path, plainLower_sectionName, plainLower_fieldName,
    KeyPath.child.injEq, KeyPath.root.injEq]

/-- What single settings give a setting are the values at its path. -/
theorem flatMap_gives {settings : List (KeyPath × Value)} (leaf : Leaf)
    (h : ∀ setting ∈ settings, ∃ other : Leaf, setting.1 = other.path) :
    (settings.map fun (path, value) => (⟨none, path, value⟩ : Assignment)).flatMap (·.gives leaf) =
      (valuesAt leaf.path settings).map (.ofValue none) := by
  induction settings with
  | nil => rfl
  | cons setting rest ih =>
    obtain ⟨path, value⟩ := setting
    obtain ⟨⟨other, hother⟩, hrest⟩ := List.forall_mem_cons.1 h
    obtain rfl : path = other.path := hother
    rw [List.map_cons, List.flatMap_cons, gives_path, ih hrest]
    -- a setting at one leaf gives nothing to another
    by_cases hpath : other.path = leaf.path <;> simp [valuesAt, hpath]

/-- The same for the single settings of all layers. -/
theorem SetsLeaves.path_eq_of_single {loader : Loader} (h : loader.SetsLeaves) :
    ∀ setting ∈ singleSettings loader.layers, ∃ leaf : Leaf, setting.1 = leaf.path := by
  intro setting hsetting
  obtain ⟨value, hlayer⟩ := mem_singleSettings hsetting
  exact h.path_eq hlayer

/-- Single settings for leaves fit. -/
theorem SetsLeaves.fits_of_single {loader : Loader} (h : loader.SetsLeaves) {a : Assignment}
    (ha : a ∈ loader.singles) : a.Fits := by
  obtain ⟨setting, hsetting, rfl⟩ := List.mem_map.1 ha
  obtain ⟨leaf, hleaf⟩ := h.path_eq_of_single setting hsetting
  exact fun _ => .inr ⟨_, _, hleaf⟩

/-- The single settings give what the last one has. -/
theorem SetsLeaves.flatMap_singles {loader : Loader} (h : loader.SetsLeaves) (leaf : Leaf) :
    loader.singles.flatMap (·.gives leaf) = (loader.single? leaf).toList := by
  rw [singles, flatMap_gives leaf h.path_eq_of_single, valuesAt_singleSettings, single?]
  cases (loader.layers.filterMap (·.valueAt? leaf.path)).getLast? <;> rfl

/-- What counts of the default, the files and the last single setting. -/
theorem last?_eq_source? (loader : Loader) (files : Files) (leaf : Leaf) :
    Setting.last? (Config.defaults.leaf? leaf)
      (loader.fromFiles files leaf ++ (loader.single? leaf).toList) =
        loader.source? files leaf := by
  rw [Setting.last?_append, source?]
  cases loader.single? leaf with
  | none => rfl
  | some setting =>
    cases hcounts : setting.Counts <;> simp [Setting.last?, Option.filter, hcounts]

/-- A configuration has what is read from the sources of its leaves. -/
theorem SetsLeaves.readFrom_source? {loader : Loader} (leaves : loader.SetsLeaves) {files : Files}
    (tables : loader.GivesTables files) {config : Config} (h : loader.build files = .ok config)
    (leaf : Leaf) : leaf.ReadFrom (loader.source? files leaf) config := by
  obtain ⟨settings, hsettings, hconfig⟩ := exists_of_bind_eq_ok h
  have hfits : ∀ a ∈ loader.layers.flatMap (·.fileSettings files) ++ loader.singles, a.Fits := by
    intro a ha
    rcases List.mem_append.1 ha with ha | ha
    · obtain ⟨layer, hlayer, ha⟩ := List.mem_flatMap.1 ha
      exact tables layer hlayer a ha
    · exact leaves.fits_of_single ha
  obtain ⟨hsections, hleaf⟩ := Assignment.leaf?_foldl_apply hfits Setting.hasSections_defaults
  rw [← settings_eq_ok hsettings] at hsections hleaf
  -- the configuration is read from all that was given; what counts of this is the source
  have hread := hsections.readFrom hconfig leaf
  rw [hleaf, List.flatMap_append, leaves.flatMap_singles] at hread
  rw [← last?_eq_source?]
  exact hread.last?

/-! ### Files that are not there -/

/-- A file that has to be there and is not makes every pass over the layers fail. -/
theorem foldlM_addFile_missing {files : Files} {name : String}
    (hmissing : findFile files name = none) {layers : List Layer}
    (hlayer : .file name true ∈ layers) (base : Setting) :
    ∃ problem, layers.foldlM (addFile files) base = .error problem := by
  induction layers generalizing base with
  | nil => cases hlayer
  | cons layer rest ih =>
    rw [List.foldlM_cons]
    -- the file fails at its turn, unless a layer before it fails already
    rcases List.mem_cons.1 hlayer with rfl | hrest
    · exact ⟨.missingFile name, by simp [addFile, hmissing, bind, Except.bind]⟩
    · cases hadd : addFile files base layer with
      | error problem => exact ⟨problem, rfl⟩
      | ok next => exact ih hrest next

/-- A file that need not be there and is not changes nothing. -/
theorem settings_absent {files : Files} {name : String} (hmissing : findFile files name = none)
    (before after : List Layer) :
    settings ⟨before ++ .file name false :: after⟩ files = settings ⟨before ++ after⟩ files := by
  have hadd (base : Setting) : addFile files base (.file name false) = .ok base := by
    simp [addFile, hmissing]
  -- neither the single settings nor the files see an optional file that is missing
  have hsingle : singleSettings (before ++ .file name false :: after) =
      singleSettings (before ++ after) := by
    simp only [singleSettings, List.foldl_append, List.foldl_cons]
  have hfiles : (before ++ .file name false :: after).foldlM (addFile files) Config.defaults =
      (before ++ after).foldlM (addFile files) Config.defaults := by
    simp only [List.foldlM_append, List.foldlM_cons, hadd]
    rfl
  rw [settings, settings, hsingle, hfiles]

/-- **Which layer a setting comes from.**  A loader that misses a file it requires builds nothing.
Where it builds a configuration, this has for every leaf the last single setting for it, wherever
that stands among the files, otherwise what the last file gives for it, otherwise the default; a
table without entries does not count as given.  A file that may be missing, and is, changes
nothing. -/
theorem build_precedence (files : Files) {loader : Loader} (leaves : loader.SetsLeaves)
    (tables : loader.GivesTables files) :
    (∀ name, .file name true ∈ loader.layers → findFile files name = none →
      ∃ problem, loader.build files = .error problem) ∧
    (∀ config, loader.build files = .ok config → ∀ leaf : Leaf,
      leaf.ReadFrom (loader.source? files leaf) config) ∧
    (∀ name before after, loader.layers = before ++ .file name false :: after →
      findFile files name = none → loader.build files = build ⟨before ++ after⟩ files) := by
  refine ⟨fun name hlayer hmissing => ?_,
    fun config hbuild leaf => leaves.readFrom_source? tables hbuild leaf,
    fun name before after hlayers hmissing => ?_⟩
  · obtain ⟨problem, hproblem⟩ := foldlM_addFile_missing hmissing hlayer Config.defaults
    exact ⟨problem, by rw [build, settings, hproblem]; rfl⟩
  · -- without the missing file the loader computes the same settings
    obtain ⟨layers⟩ := loader
    obtain rfl : layers = before ++ .file name false :: after := hlayers
    rw [build, build, settings_absent hmissing]

/-- A table without entries for a leaf that has a default is a setting for it, and still the default
is what the configuration has. -/
theorem empty_table_keeps_default :
    (Loader.new.set? "tree.whitelist" (.map []) >>= fun loader => loader.build ⟨[]⟩) =
        .ok ⟨⟨.filtered, 1, ["name", "value", "kind", "operator"], .standard⟩,
          ⟨500, 750, none, none⟩, ⟨"info", "astv.log"⟩⟩ ∧
      single? ⟨[.setting Leaf.whitelist.path (.map [])]⟩ .whitelist = some Setting.noEntries ∧
      ∀ config, ¬ Leaf.whitelist.ReadFrom (some Setting.noEntries) config := by
  refine ⟨by cbv, by cbv, fun config h => ?_⟩
  cases h

/-- A settings file for two sections. -/
def layeredText : String :=
  "[tree]\nwhitelist = [\"x\"]\n\n[workbench]\ndebounce_ms = 9\n"

/-- The directory with this file alone. -/
def layeredFiles : Files := ⟨[(["a.toml"], encodeText layeredText)]⟩

/-- A single setting, the file, and the usual file, which is not there. -/
def layered : Loader :=
  ⟨[.setting Leaf.openDepth.path (.int 3), .file "a.toml" true, .file userConfigFile false]⟩

/-- Any plain name is found in the example's own directory. -/
theorem layeredFiles_locate {name : String} (hslash : '/' ∉ name.toList)
    (hname : name ≠ "" ∧ name ≠ "." ∧ name ≠ "..") (hchars : name.toList.contains '\x00' = false)
    (hlength : name.utf8ByteSize ≤ Files.longestName) : layeredFiles.locate name = .ok [name] :=
  layeredFiles.locate_of_partsOf (Files.partsOf_of_not_mem hslash ⟨hname.1, hname.2.1⟩)
    ⟨hname.1, hname.2.2⟩ hchars hlength

/-- Of the example's files only the one by its own name is there. -/
theorem findFile_layered : findFile layeredFiles "a.toml" = some "a.toml" ∧
    findFile layeredFiles userConfigFile = none := by
  -- a name without a slash is looked up as it is
  have hisFile {name : String} (hslash : '/' ∉ name.toList)
      (hname : name ≠ "" ∧ name ≠ "." ∧ name ≠ "..") (hchars : name.toList.contains '\x00' = false)
      (hlength : name.utf8ByteSize ≤ Files.longestName) :
      layeredFiles.isFile name = (layeredFiles.entries.lookup [name]).isSome :=
    Files.isFile_of_locate (layeredFiles_locate hslash hname hchars hlength) hslash
  have hfile : layeredFiles.isFile "a.toml" = true :=
    hisFile (by decide) (by decide) (by decide) (by decide)
  have hnone : layeredFiles.isFile userConfigFile = false :=
    hisFile (by decide) (by decide) (by decide) (by decide)
  have hlonger : layeredFiles.isFile "astview.toml.toml" = false :=
    hisFile (by decide) (by decide) (by decide) (by decide)
  have hending : withEnding? userConfigFile = some "astview.toml.toml" := by
    rw [withEnding?, Files.partsOf_of_not_mem (by decide) (by decide)]
    rfl
  exact ⟨by rw [findFile, if_pos hfile], by rw [findFile, hnone, hending]; simp [hlonger]⟩

/-- What the file gives. -/
def layeredSettings : List (String × Value) :=
  [("tree", .map [("whitelist", .list [.str "x"])]), ("workbench", .map [("debounce_ms", .int 9)])]

/-- That file is read as the example's settings. -/
theorem readText_layered :
    (layeredFiles.readText "a.toml").map Toml.read? = .ok (some layeredSettings) := by
  -- the octets of the file are those of the text
  have htext : layeredFiles.readText "a.toml" = .ok layeredText :=
    Files.readText_of_lookup (layeredFiles_locate (by decide) (by decide) (by decide) (by decide))
      (by decide) (Files.asksDirectory_of_not_mem (by decide)) rfl (decodeText?_eq_some_iff.2 rfl)
  have hread : Toml.read? layeredText = some layeredSettings := by
    unfold layeredText layeredSettings
    cbv
  rw [htext, Except.map, hread]

/-- The example sets known settings only. -/
theorem layered_setsLeaves : layered.SetsLeaves :=
  .withUserFile none (.withFile "a.toml" (.set .openDepth .new
    (by decide : asciiLower "Tree.Initial_Open_Depth" = Leaf.openDepth.key)
    (set?_leaf .new (by decide) (.int 3))))

/-- What the example's file says of sections are tables. -/
theorem layered_givesTables : layered.GivesTables layeredFiles := by
  intro layer hlayer a ha
  simp only [layered, List.mem_cons, List.not_mem_nil, or_false] at hlayer
  -- a setting at a leaf, the file with two tables, the file that is missing
  obtain rfl | rfl | rfl := hlayer
  · cases ha
  · simp only [Layer.fileSettings, findFile_layered.1, readText_layered] at ha
    have htree : KeyPath.parse? "tree" = some (.root "tree") := by cbv
    have hworkbench : KeyPath.parse? "workbench" = some (.root "workbench") := by cbv
    simp only [layeredSettings, List.map_cons, List.map_nil, htree, hworkbench, Option.getD_some,
      List.mem_cons, List.not_mem_nil, or_false] at ha
    obtain rfl | rfl := ha <;> exact fun _ => .inl ⟨_, _, rfl, rfl⟩
  · simp only [Layer.fileSettings, findFile_layered.2] at ha
    cases ha

/-- The depth is that of the single setting, the list and the time are those of the file, and the
usual file changes nothing. -/
theorem build_precedence_layered :
    let config : Config :=
      ⟨⟨.filtered, 3, ["x"], .standard⟩, ⟨9, 750, none, none⟩, ⟨"info", "astv.log"⟩⟩
    layered.SetsLeaves ∧ layered.GivesTables layeredFiles ∧
      layered.build layeredFiles = .ok config ∧
      (∀ leaf : Leaf, leaf.ReadFrom (layered.source? layeredFiles leaf) config) ∧
      layered.build layeredFiles =
        build ⟨[.setting Leaf.openDepth.path (.int 3), .file "a.toml" true]⟩ layeredFiles := by
  intro config
  have hsettings : layered.layers.foldlM (addFile layeredFiles) Config.defaults =
      .ok (addSettings Config.defaults "a.toml" layeredSettings) := by
    have hparts : "/".intercalate (Files.partsOf "a.toml") = "a.toml" := by
      rw [Files.partsOf_of_not_mem (by decide) (by decide)]
      rfl
    simp only [layered, List.foldlM_cons, addFile, findFile_layered, readText_layered, bind,
      Except.bind, hparts]
    rfl
  have hbuild : layered.build layeredFiles = .ok config := by
    rw [build, settings, hsettings]
    unfold layeredSettings config
    cbv
  -- an explicit setting, a file below it and a user file that is not there
  obtain ⟨-, hread, habsent⟩ :=
    build_precedence layeredFiles layered_setsLeaves layered_givesTables
  exact ⟨layered_setsLeaves, layered_givesTables, hbuild, hread config hbuild,
    habsent userConfigFile [.setting Leaf.openDepth.path (.int 3), .file "a.toml" true] [] rfl
      findFile_layered.2⟩

end Loader

end TreeOutline
