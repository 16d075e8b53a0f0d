import TreeOutline.Files.Basic
import TreeOutline.Settings.Config
import TreeOutline.Settings.Toml.Document

namespace TreeOutline

/-!
# Loading the configuration

Settings come in layers: the defaults, files in the order they are named, and single settings,
which win over every file.

* `Layer` — a file, or a setting under a key; `Loader` — the layers so far.
* `Loader.withFile`, `withOptionalFile`, `withUserFile`, `set?` — one more layer.
* `Loader.build` — the configuration that results in a directory.
-/

/-- One layer of settings. -/
inductive Layer where
  | file (name : String) (required : Bool)
  | setting (path : KeyPath) (value : Value)
deriving Repr

/-- Layers of settings over the defaults, in the order they were added. -/
structure Loader where
  layers : List Layer
deriving Repr

/-- The settings file that is used when none is named. -/
def userConfigFile : String := "astview.toml"

namespace Loader

/-- Nothing but the defaults. -/
def new : Loader := ⟨[]⟩

/-- Adds a file that has to be there. -/
def withFile (loader : Loader) (name : String) : Loader := ⟨loader.layers ++ [.file name true]⟩

/-- Adds a file that may be missing. -/
def withOptionalFile (loader : Loader) (name : String) : Loader :=
  ⟨loader.layers ++ [.file name false]⟩

/-- Adds the file that the user names, otherwise the usual one if it is there. -/
def withUserFile (loader : Loader) : (name : Option String) → Loader
  | some name => loader.withFile name
  | none => loader.withOptionalFile userConfigFile

/-- Adds a setting under a key, which is read in small letters. -/
def set? (loader : Loader) (key : String) (value : Value) : Except SettingsProblem Loader :=
  match KeyPath.parse? (asciiLower key) with
  | some path => .ok ⟨loader.layers ++ [.setting path value]⟩
  | none => .error .badKey

/-- The name with the usual ending added, without what follows the file's own name; none where the
path does not end in a name. -/
def withEnding? (name : String) : Option String :=
  let parts := Files.partsOf name
  if parts.getLast?.all (fun last => last = ".." ∨ last = Files.rootPart) then none
  else some ("/".intercalate parts ++ ".toml")

/-- The name of a settings file: the file itself, or the one whose name has the usual ending
added. -/
def findFile (files : Files) (name : String) : Option String :=
  if files.isFile name then some name else (withEnding? name).filter files.isFile

/-- Puts the settings of a file over those so far.  The names in the outermost table are read as
addresses where they can be. -/
def addSettings (base : Setting) (origin : String) (settings : List (String × Value)) : Setting :=
  settings.foldl (fun base (name, value) =>
    Setting.setAt ((KeyPath.parse? name).getD (.root name)) (.ofValue (some origin) value) base)
    base

/-- Puts a file over the settings so far; single settings wait for their turn.  A file that may be
missing may also be no text. -/
def addFile (files : Files) (base : Setting) : Layer → Except SettingsProblem Setting
  | .setting .. => .ok base
  | .file name required =>
    match findFile files name with
    | none => if required then .error (.missingFile name) else .ok base
    | some found =>
      let origin := "/".intercalate (Files.partsOf found)
      match (files.readText found).map Toml.read? with
      | .ok (some settings) => .ok (addSettings base origin settings)
      | .ok none => .error (.badFile origin)
      | .error problem => if required then .error (.unreadable problem) else .ok base

/-- Of several settings under one key the last counts. -/
def putSetting (path : KeyPath) (value : Value) : List (KeyPath × Value) → List (KeyPath × Value)
  | [] => [(path, value)]
  | (p, v) :: rest => if p = path then (p, value) :: rest else (p, v) :: putSetting path value rest

/-- The single settings among the layers. -/
def singleSettings (layers : List Layer) : List (KeyPath × Value) :=
  layers.foldl (fun settings layer =>
    match layer with
    | .setting path value => putSetting path value settings
    | .file .. => settings) []

/-- All settings of the layers: files over the defaults, single settings over the files. -/
def settings (loader : Loader) (files : Files) : Except SettingsProblem Setting := do
  let base ← loader.layers.foldlM (addFile files) Config.defaults
  pure ((singleSettings loader.layers).foldl (fun base (path, value) =>
    Setting.setAt path (.ofValue none value) base) base)

/-- The configuration that the layers give in a directory. -/
def build (loader : Loader) (files : Files) : Except SettingsProblem Config :=
  loader.settings files >>= Config.ofSetting

end Loader

end TreeOutline
