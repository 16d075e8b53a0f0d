import TreeOutline.Outline.Rules
import TreeOutline.Settings.Problem

namespace TreeOutline

/-!
# The configuration

* `Config` — the settings of the tools, by section; `TreeConfig.displayRules` — the rules they give.
* `Setting.toInt`, `toNatural`, `toText` — conversions between kinds of scalars.
* `Config.ofSetting` — the configuration that a table of settings gives.
* `Config.defaults` — the settings before any file.
-/

/-- What is shown of a tree. -/
structure TreeConfig where
  variant : Variant
  openDepth : Int
  whitelist : List String
  tagKeys : TagKeys
deriving DecidableEq, Repr

/-- When and with what a session computes. -/
structure WorkbenchConfig where
  debounce : Nat
  errorDebounce : Nat
  parserCommand : Option String
  transformCommand : Option String
deriving DecidableEq, Repr

/-- What is logged, and where to. -/
structure LoggingConfig where
  filter : String
  file : String
deriving DecidableEq, Repr

/-- All settings. -/
structure Config where
  tree : TreeConfig
  workbench : WorkbenchConfig
  logging : LoggingConfig
deriving DecidableEq, Repr

/-- The display rules of the settings, nothing marked and no source text known. -/
def TreeConfig.displayRules (config : TreeConfig) : DisplayRules :=
  ⟨config.variant, config.openDepth, config.whitelist, none, none, config.tagKeys⟩

namespace Setting

/-! ### Scalars -/

/-- A problem with what stands here. -/
def wrongType {α : Type} (s : Setting) (expected : String) : Except SettingsProblem α :=
  .error (.wrongType s.found expected none s.origin)

/-- Words for yes and no. -/
def switchValue? (text : String) : Option Nat :=
  let lowered := asciiLower text
  if lowered = "true" ∨ lowered = "on" ∨ lowered = "yes" then some 1
  else if lowered = "false" ∨ lowered = "off" ∨ lowered = "no" then some 0
  else none

/-- A number between bounds in decimal digits, with a sign perhaps; a minus sign only where
negative numbers are allowed. -/
def decimal? (low high : Int) (text : String) : Option Int :=
  let (negative, digits) := match text.toList with
    | '+' :: rest => (false, rest)
    | '-' :: rest => if low < 0 then (true, rest) else (false, '-' :: rest)
    | rest => (false, rest)
  if digits.isEmpty ∨ ¬ digits.all Char.isDigit then none
  else
    let n : Int := digits.foldl (fun n c => 10 * n + (c.toNat - '0'.toNat)) 0
    let n := if negative then -n else n
    if low ≤ n ∧ n ≤ high then some n else none

/-- The nearest integer, a half away from zero, and never outside the bounds. -/
def nearestInt (low high : Int) (x : Binary64) : Int :=
  match x with
  | .nan => 0
  | .infinite negative => if negative then low else high
  | .finite negative _ _ =>
    match x.ratio with
    | some (num, den) =>
      let n : Int := roundHalfAway num den
      max low (min high (if negative then -n else n))
    | none => 0

/-- An integer with a sign: switches count as one and zero, fractions are rounded, and texts are
read. -/
def toInt (s : Setting) : Except SettingsProblem Int :=
  let ⟨low, high⟩ := IntRange.signed64
  match s with
  | .scalar _ (.int n) => if n ≤ high then .ok n else s.wrongType "an signed 64 bit or less integer"
  | .scalar _ (.bool b) => .ok (if b then 1 else 0)
  | .scalar _ (.float x) => .ok (nearestInt low high x)
  | .scalar _ (.str text) =>
    match switchValue? text, decimal? low high text with
    | some n, _ => .ok n
    | none, some n => .ok n
    | none, none => s.wrongType "an integer"
  | _ => s.wrongType "an integer"

/-- A small integer with a sign. -/
def toSmallInt (s : Setting) : Except SettingsProblem Int := do
  let n ← s.toInt
  if IntRange.signed32.holds n then pure n
  else .error (.wrongType s!"64-bit integer `{n}`" "an signed 32 bit integer" none none)

/-- An integer without a sign. -/
def toNatural (s : Setting) : Except SettingsProblem Nat :=
  let high := IntRange.unsigned64.greatest
  match s with
  | .scalar _ (.int n) =>
    if 0 ≤ n then .ok n.toNat else s.wrongType "an unsigned 64 bit or less integer"
  | .scalar _ (.bool b) => .ok (if b then 1 else 0)
  | .scalar _ (.float x) => .ok (nearestInt 0 high x).toNat
  | .scalar _ (.str text) =>
    match switchValue? text, decimal? 0 high text with
    | some n, _ => .ok n
    | none, some n => .ok n.toNat
    | none, none => s.wrongType "an integer"
  | _ => s.wrongType "an integer"

/-- A text; other scalars give their spelling. -/
def toText (s : Setting) : Except SettingsProblem String :=
  match s with
  | .scalar _ (.str text) => .ok text
  | .scalar _ (.bool b) => .ok (if b then "true" else "false")
  | .scalar _ (.int n) => .ok (toString n)
  | .scalar _ (.float x) => .ok x.plainText
  | _ => s.wrongType "a string"

/-- A text that may be missing. -/
def toOptionalText (s : Setting) : Except SettingsProblem (Option String) :=
  match s with
  | .scalar _ .null => .ok none
  | s => s.toText.map some

/-! ### Lists and tables -/

/-- A problem with something that is neither a list nor a table. -/
def unexpected {α : Type} (s : Setting) (expected : String) : Except SettingsProblem α :=
  .error (.refused s!"invalid type: {s.foundInstead}, expected {expected}")

/-- The texts of a list, from position `index` on. -/
def itemTexts : (index : Nat) → List Setting → Except SettingsProblem (List String)
  | _, [] => .ok []
  | index, item :: rest => do
    let text ← item.toText.mapError (·.inItem index)
    let texts ← itemTexts (index + 1) rest
    pure (text :: texts)

/-- A list of texts. -/
def toTexts (s : Setting) : Except SettingsProblem (List String) :=
  match s with
  | .list _ items => itemTexts 0 items
  | s => s.unexpected "a sequence"

/-- A variant by its name, which may also be the only name in a table. -/
def toVariant (s : Setting) : Except SettingsProblem Variant :=
  let named (name : String) : Except SettingsProblem Variant :=
    let lowered := asciiLower name
    if lowered = "all" then .ok .all
    else if lowered = "filtered" then .ok .filtered
    else .error (.refused s!"enum Variant does not have variant constructor {name}")
  match s with
  | .scalar _ (.str name) => named name
  | .table _ [(name, _)] => named name
  | _ => .error (.refused ("value of enum Variant should be represented by " ++
      "either string or table with exactly one key"))

/-- A section as the values of its fields: a table has them by name, a list in order. -/
structure Section where
  name : String
  fields : List String
  setting : Setting

namespace Section

/-- A field that has to be there. -/
def required {α : Type} (s : Section) (field : String) (read : Setting → Except SettingsProblem α) :
    Except SettingsProblem α :=
  match s.setting with
  | .table _ entries =>
    match field? field entries with
    | some value => (read value).mapError (·.inField field)
    | none => .error (.refused s!"missing field `{field}`")
  | .list _ items =>
    let index := s.fields.idxOf field
    match items[index]? with
    | some value => (read value).mapError (·.inItem index)
    | none => .error (.refused
        s!"invalid length {index}, expected struct {s.name} with {s.fields.length} elements")
  | other => other.unexpected s!"struct {s.name}"

/-- A text that may be missing. -/
def optional (s : Section) (field : String) : Except SettingsProblem (Option String) :=
  match s.setting with
  | .table _ entries =>
    match field? field entries with
    | some value => value.toOptionalText.mapError (·.inField field)
    | none => .ok none
  | .list _ items =>
    let index := s.fields.idxOf field
    match items[index]? with
    | some value => value.toOptionalText.mapError (·.inItem index)
    | none => .ok none
  | other => other.unexpected s!"struct {s.name}"

end Section

/-- The section for trees. -/
def toTreeConfig (setting : Setting) : Except SettingsProblem TreeConfig := do
  let s : Section :=
    ⟨"TreeConfig", ["variant", "initial_open_depth", "whitelist", "tag_keys"], setting⟩
  let variant ← s.required "variant" toVariant
  let openDepth ← s.required "initial_open_depth" toSmallInt
  let whitelist ← s.required "whitelist" toTexts
  let tagKeys ← s.required "tag_keys" toTexts
  pure ⟨variant, openDepth, whitelist, ⟨tagKeys⟩⟩

/-- The section for the workbench. -/
def toWorkbenchConfig (setting : Setting) : Except SettingsProblem WorkbenchConfig := do
  let s : Section := ⟨"WorkbenchConfig",
    ["debounce_ms", "error_debounce_ms", "parser_command", "transform_command"], setting⟩
  let debounce ← s.required "debounce_ms" toNatural
  let errorDebounce ← s.required "error_debounce_ms" toNatural
  let parserCommand ← s.optional "parser_command"
  let transformCommand ← s.optional "transform_command"
  pure ⟨debounce, errorDebounce, parserCommand, transformCommand⟩

/-- The section for logging. -/
def toLoggingConfig (setting : Setting) : Except SettingsProblem LoggingConfig := do
  let s : Section := ⟨"LoggingConfig", ["filter", "file"], setting⟩
  let filter ← s.required "filter" toText
  let file ← s.required "file" toText
  pure ⟨filter, file⟩

end Setting

namespace Config

/-- The configuration that a table of settings gives. -/
def ofSetting (setting : Setting) : Except SettingsProblem Config := do
  let s : Setting.Section := ⟨"AstviewConfig", ["tree", "workbench", "logging"], setting⟩
  let tree ← s.required "tree" Setting.toTreeConfig
  let workbench ← s.required "workbench" Setting.toWorkbenchConfig
  let logging ← s.required "logging" Setting.toLoggingConfig
  pure ⟨tree, workbench, logging⟩

/-- The settings before any file. -/
def defaults : Setting :=
  .ofValue none (.map [
    ("tree", .map [
      ("variant", .str "filtered"),
      ("initial_open_depth", .int 1),
      ("whitelist", .list [.str "name", .str "value", .str "kind", .str "operator"]),
      ("tag_keys", .list [.str "type", .str "kind"])]),
    ("workbench", .map [("debounce_ms", .int 500), ("error_debounce_ms", .int 750)]),
    ("logging", .map [("filter", .str "info"), ("file", .str "astv.log")])])

end Config

end TreeOutline
