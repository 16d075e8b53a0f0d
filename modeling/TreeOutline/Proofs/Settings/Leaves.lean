import Mathlib
import TreeOutline.Proofs.Settings.Overlay
import TreeOutline.Steps

namespace TreeOutline

/-!
# Leaves of the configuration

What the configuration has under each of its names is read from one setting.

* `Leaf` — the settings that are no sections; `Leaf.key`, `Leaf.path` — how one is addressed.
* `Leaf.ReadFrom` — what the configuration has for a leaf, as what is read from a setting.
* `Setting.HasSections`, `Setting.HasSections.readFrom` — where the sections are tables, every leaf
  is read from its entry.
* `Leaf.ReadFrom.last?` — of all that is given for a leaf, it is read from the last that counts.
-/

/-! ### Leaves -/

/-- The settings that are no sections. -/
inductive Leaf where
  | variant | openDepth | whitelist | tagKeys
  | debounce | errorDebounce | parserCommand | transformCommand
  | filter | file
deriving DecidableEq, Repr

namespace Leaf

/-- The section that a leaf stands in. -/
def sectionName : Leaf → String
  | .variant | .openDepth | .whitelist | .tagKeys => "tree"
  | .debounce | .errorDebounce | .parserCommand | .transformCommand => "workbench"
  | .filter | .file => "logging"

/-- The name of a leaf in its section. -/
def fieldName : Leaf → String
  | .variant => "variant"
  | .openDepth => "initial_open_depth"
  | .whitelist => "whitelist"
  | .tagKeys => "tag_keys"
  | .debounce => "debounce_ms"
  | .errorDebounce => "error_debounce_ms"
  | .parserCommand => "parser_command"
  | .transformCommand => "transform_command"
  | .filter => "filter"
  | .file => "file"

/-- The key of a leaf. -/
def key (leaf : Leaf) : String := leaf.sectionName ++ "." ++ leaf.fieldName

/-- The address of a leaf. -/
def path (leaf : Leaf) : KeyPath := .child (.root leaf.sectionName) leaf.fieldName

/-- Whether the configuration has for a leaf what is read from a setting, if there is one. -/
def ReadFrom (leaf : Leaf) (given : Option Setting) (config : Config) : Prop :=
  match leaf with
  | .variant => given.map Setting.toVariant = some (.ok config.tree.variant)
  | .openDepth => given.map Setting.toSmallInt = some (.ok config.tree.openDepth)
  | .whitelist => given.map Setting.toTexts = some (.ok config.tree.whitelist)
  | .tagKeys => given.map Setting.toTexts = some (.ok config.tree.tagKeys.names)
  | .debounce => given.map Setting.toNatural = some (.ok config.workbench.debounce)
  | .errorDebounce => given.map Setting.toNatural = some (.ok config.workbench.errorDebounce)
  | .parserCommand =>
    (given.map Setting.toOptionalText).getD (.ok none) = .ok config.workbench.parserCommand
  | .transformCommand =>
    (given.map Setting.toOptionalText).getD (.ok none) = .ok config.workbench.transformCommand
  | .filter => given.map Setting.toText = some (.ok config.logging.filter)
  | .file => given.map Setting.toText = some (.ok config.logging.file)

end Leaf

/-- The names of the sections. -/
def sectionNames : List String := ["tree", "workbench", "logging"]

/-- Each setting belongs to one of the sections. -/
theorem Leaf.sectionName_mem (leaf : Leaf) : leaf.sectionName ∈ sectionNames := by
  cases leaf <;> decide

/-- The names of sections are in small letters. -/
theorem plainLower_sectionName (leaf : Leaf) : plainLower leaf.sectionName = leaf.sectionName := by
  cases leaf <;> decide

/-- The names of settings are in small letters already. -/
theorem plainLower_fieldName (leaf : Leaf) : plainLower leaf.fieldName = leaf.fieldName := by
  cases leaf <;> decide

/-- The dotted key of a setting is read as its path. -/
theorem Leaf.parse?_key (leaf : Leaf) : KeyPath.parse? leaf.key = some leaf.path := by
  cases leaf <;> cbv

/-! ### What the configuration has -/

namespace Setting

/-- The setting of a leaf. -/
def leaf? (leaf : Leaf) (s : Setting) : Option Setting :=
  (s.child? leaf.sectionName).bind (child? leaf.fieldName)

/-- A required field that is read is there and says so. -/
theorem Section.required_eq_ok {α : Type} {s : Section} (hs : s.setting.IsTable) {field : String}
    {read : Setting → Except SettingsProblem α} {result : α}
    (h : s.required field read = .ok result) :
    (s.setting.child? field).map read = some (.ok result) := by
  obtain ⟨name, fields, setting⟩ := s
  obtain ⟨origin, entries, rfl : setting = _⟩ := hs
  simp only [Section.required] at h
  show (field? field entries).map read = _
  -- a required setting that is missing is a problem, so here it is given
  cases hfield : field? field entries with
  | none => simp [hfield] at h
  | some value =>
    rw [hfield] at h
    exact congrArg some (mapError_eq_ok.1 h)

/-- An optional field that is read is absent or says so. -/
theorem Section.optional_eq_ok {s : Section} (hs : s.setting.IsTable) {field : String}
    {result : Option String} (h : s.optional field = .ok result) :
    ((s.setting.child? field).map toOptionalText).getD (.ok none) = .ok result := by
  obtain ⟨name, fields, setting⟩ := s
  obtain ⟨origin, entries, rfl : setting = _⟩ := hs
  simp only [Section.optional] at h
  show ((field? field entries).map toOptionalText).getD (.ok none) = _
  cases hfield : field? field entries with
  -- a missing optional setting reads as nothing
  | none => simpa [hfield] using h
  | some value =>
    rw [hfield] at h
    exact mapError_eq_ok.1 h

/-- What a tree section that is read has said in each of its fields. -/
theorem toTreeConfig_eq_ok {s : Setting} (hs : s.IsTable) {config : TreeConfig}
    (h : s.toTreeConfig = .ok config) :
    (s.child? "variant").map toVariant = some (.ok config.variant) ∧
      (s.child? "initial_open_depth").map toSmallInt = some (.ok config.openDepth) ∧
      (s.child? "whitelist").map toTexts = some (.ok config.whitelist) ∧
      (s.child? "tag_keys").map toTexts = some (.ok config.tagKeys.names) := by
  -- one setting after the other, each of which has to be read for the next to be
  obtain ⟨variant, hvariant, h⟩ := exists_of_bind_eq_ok h
  obtain ⟨openDepth, hdepth, h⟩ := exists_of_bind_eq_ok h
  obtain ⟨whitelist, hwhitelist, h⟩ := exists_of_bind_eq_ok h
  obtain ⟨tagKeys, htagKeys, h⟩ := exists_of_bind_eq_ok h
  cases h
  exact ⟨Section.required_eq_ok hs hvariant, Section.required_eq_ok hs hdepth,
    Section.required_eq_ok hs hwhitelist, Section.required_eq_ok hs htagKeys⟩

/-- What a workbench section that is read has said in each of its fields. -/
theorem toWorkbenchConfig_eq_ok {s : Setting} (hs : s.IsTable) {config : WorkbenchConfig}
    (h : s.toWorkbenchConfig = .ok config) :
    (s.child? "debounce_ms").map toNatural = some (.ok config.debounce) ∧
      (s.child? "error_debounce_ms").map toNatural = some (.ok config.errorDebounce) ∧
      ((s.child? "parser_command").map toOptionalText).getD (.ok none) =
        .ok config.parserCommand ∧
      ((s.child? "transform_command").map toOptionalText).getD (.ok none) =
        .ok config.transformCommand := by
  -- one setting after the other, each of which has to be read for the next to be
  obtain ⟨debounce, hdebounce, h⟩ := exists_of_bind_eq_ok h
  obtain ⟨errorDebounce, herror, h⟩ := exists_of_bind_eq_ok h
  obtain ⟨parserCommand, hparser, h⟩ := exists_of_bind_eq_ok h
  obtain ⟨transformCommand, htransform, h⟩ := exists_of_bind_eq_ok h
  cases h
  exact ⟨Section.required_eq_ok hs hdebounce, Section.required_eq_ok hs herror,
    Section.optional_eq_ok hs hparser, Section.optional_eq_ok hs htransform⟩

/-- What a logging section that is read has said in each of its fields. -/
theorem toLoggingConfig_eq_ok {s : Setting} (hs : s.IsTable) {config : LoggingConfig}
    (h : s.toLoggingConfig = .ok config) :
    (s.child? "filter").map toText = some (.ok config.filter) ∧
      (s.child? "file").map toText = some (.ok config.file) := by
  obtain ⟨filter, hfilter, h⟩ := exists_of_bind_eq_ok h
  obtain ⟨file, hfile, h⟩ := exists_of_bind_eq_ok h
  cases h
  exact ⟨Section.required_eq_ok hs hfilter, Section.required_eq_ok hs hfile⟩

/-- A table in which every section is one. -/
structure HasSections (s : Setting) : Prop where
  root : s.IsTable
  sections : ∀ name ∈ sectionNames, ∃ inner, s.child? name = some inner ∧ inner.IsTable

/-- The defaults have a table for each section. -/
theorem hasSections_defaults : HasSections Config.defaults := by
  refine ⟨⟨_, _, rfl⟩, fun name hname => ?_⟩
  simp only [sectionNames, List.mem_cons, List.not_mem_nil, or_false] at hname
  obtain rfl | rfl | rfl := hname <;> exact ⟨_, rfl, _, _, rfl⟩

/-- The configuration has for each leaf what is read from its setting. -/
theorem HasSections.readFrom {s : Setting} (hs : s.HasSections) {config : Config}
    (h : Config.ofSetting s = .ok config) (leaf : Leaf) :
    leaf.ReadFrom (s.leaf? leaf) config := by
  obtain ⟨tree, htree, h⟩ := exists_of_bind_eq_ok h
  obtain ⟨workbench, hworkbench, h⟩ := exists_of_bind_eq_ok h
  obtain ⟨logging, hlogging, h⟩ := exists_of_bind_eq_ok h
  cases h
  -- each section is a table by the invariant, and its reader succeeded
  have hsection {α : Type} {name : String} {read : Setting → Except SettingsProblem α} {result : α}
      (hname : name ∈ sectionNames)
      (hrequired : Section.required
        ⟨"AstviewConfig", ["tree", "workbench", "logging"], s⟩ name read = .ok result) :
      ∃ inner, s.child? name = some inner ∧ inner.IsTable ∧ read inner = .ok result := by
    obtain ⟨inner, hinner, htable⟩ := hs.sections name hname
    have hread := Section.required_eq_ok hs.root hrequired
    rw [hinner] at hread
    exact ⟨inner, hinner, htable, Option.some.inj hread⟩
  obtain ⟨t, ht, htable, hread⟩ := hsection (by decide) htree
  obtain ⟨w, hw, hwtable, hwread⟩ := hsection (by decide) hworkbench
  obtain ⟨l, hl, hltable, hlread⟩ := hsection (by decide) hlogging
  obtain ⟨hvariant, hdepth, hwhitelist, htagKeys⟩ := toTreeConfig_eq_ok htable hread
  obtain ⟨hdebounce, herror, hparser, htransform⟩ := toWorkbenchConfig_eq_ok hwtable hwread
  obtain ⟨hfilter, hfile⟩ := toLoggingConfig_eq_ok hltable hlread
  cases leaf <;> simpa only [Leaf.ReadFrom, leaf?, Leaf.sectionName, Leaf.fieldName, ht, hw, hl,
    Option.bind_some]

end Setting

/-! ### Tables in the place of leaves -/

namespace Leaf

/-- No leaf but the variant can be read from a table. -/
theorem ReadFrom.eq_variant {leaf : Leaf} {s : Setting} (hs : s.IsTable) {config : Config}
    (h : leaf.ReadFrom (some s) config) : leaf = .variant := by
  obtain ⟨origin, entries, rfl⟩ := hs
  cases leaf with
  | variant => rfl
  | _ => cases h

/-- What is read from all that is given for a leaf is read from the last that counts. -/
theorem ReadFrom.last? {leaf : Leaf} {below : Option Setting} {given : List Setting}
    {config : Config} (h : leaf.ReadFrom (Setting.overlayAll below given) config) :
    leaf.ReadFrom (Setting.last? below given) config := by
  -- only tables merge, and the one leaf that is read from a table is the variant
  rcases Setting.overlayAll_cases below given with
    heq | ⟨-, hempty⟩ | ⟨base, entry, rest, hmerged, hlast⟩
  · rwa [heq] at h
  · rw [hempty] at h
    obtain rfl := h.eq_variant ⟨_, _, rfl⟩
    cases h
  · rw [hmerged] at h
    obtain rfl := h.eq_variant ((Setting.isTable_merge base entry.1 entry.2).mergeAll rest)
    rw [hlast]
    exact congrArg some (Setting.toVariant_mergeAll (Option.some.inj h))

end Leaf

end TreeOutline
