import TreeOutline.Files.Basic
import TreeOutline.Settings.Setting
import TreeOutline.Text.Quoted
import TreeOutline.Number.Shortest

namespace TreeOutline

/-!
# What can be wrong with settings

* `SettingsProblem` — the causes; `SettingsProblem.message` — their wording.
* `SettingsProblem.inField`, `inItem` — the same problem one table or list further out.
-/

/-- What can be wrong with settings. -/
inductive SettingsProblem where
  /-- An address that cannot be read. -/
  | badKey
  /-- A file that has to be there and is not. -/
  | missingFile (name : String)
  /-- A file that has to be there and cannot be read. -/
  | unreadable (problem : FileProblem)
  /-- A file that is not written correctly. -/
  | badFile (name : String)
  /-- A value that cannot be converted to what is expected of the setting. -/
  | wrongType (found expected : String) (key origin : Option String)
  /-- Anything else that keeps the settings from being taken over. -/
  | refused (text : String)
deriving DecidableEq, Repr

namespace SettingsProblem

/-- The wording of a problem. -/
def message : SettingsProblem → String
  | .badKey => "invalid key"
  | .missingFile name => s!"configuration file \"{name}\" not found"
  | .unreadable problem => problem.message
  | .badFile name => s!"invalid settings in {name}"
  | .wrongType found expected key origin =>
    s!"invalid type: {found}, expected {expected}" ++
      (match key with
        | some key => s!" for key `{key}`"
        | none => "") ++
      (match origin with
        | some origin => s!" in {origin}"
        | none => "")
  | .refused text => text

/-- Puts a step in front of the key of a wrong type. -/
def within (step : String) : SettingsProblem → SettingsProblem
  | .wrongType found expected key origin =>
    let rest := key.getD ""
    let point := if key.isSome ∧ ¬ rest.startsWith "[" then "." else ""
    .wrongType found expected (some (step ++ point ++ rest)) origin
  | other => other

/-- The problem of a table whose entry has it. -/
def inField (name : String) (problem : SettingsProblem) : SettingsProblem := problem.within name

/-- The problem of a list whose item has it. -/
def inItem (index : Nat) (problem : SettingsProblem) : SettingsProblem :=
  problem.within s!"[{index}]"

end SettingsProblem

namespace Setting

/-- What stands where a scalar is expected. -/
def found : Setting → String
  | .scalar _ (.bool b) => s!"boolean `{b}`"
  | .scalar _ (.int n) =>
    if n ≤ IntRange.signed64.greatest then s!"64-bit integer `{n}`"
    else s!"64-bit unsigned integer `{n}`"
  | .scalar _ (.float x) => s!"floating point `{x.plainText}`"
  | .scalar _ (.str s) => "string " ++ quoteText s
  | .scalar .. => "unit value"
  | .list .. => "sequence"
  | .table .. => "map"

/-- What stands where a list or a table is expected. -/
def foundInstead : Setting → String
  | .scalar _ (.int n) => s!"integer `{n}`"
  | .scalar _ (.float x) =>
    let text := x.plainText
    let whole := text.toList.all fun c => c.isDigit || c == '-'
    "floating point `" ++ (if whole then text ++ ".0" else text) ++ "`"
  | other => other.found

end Setting

end TreeOutline
