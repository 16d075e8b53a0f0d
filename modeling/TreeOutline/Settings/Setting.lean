import TreeOutline.Number.Width
import TreeOutline.Text.Case
import TreeOutline.Value.Basic

namespace TreeOutline

/-!
# Settings

* `Setting` — a scalar, a list or a table of settings, and the file it comes from.
* `Setting.merge` — a setting under a name: tables are merged, everything else is replaced.
* `KeyPath` — how a setting is addressed; `KeyPath.parse?` reads `name.name[index]`.
* `Setting.setAt` — a setting at such an address, whatever was there.
-/

/-- A setting.  The origin is the file that it comes from. -/
inductive Setting where
  | scalar (origin : Option String) (value : Value)
  | list (origin : Option String) (items : List Setting)
  | table (origin : Option String) (entries : List (String × Setting))
deriving Repr

namespace Setting

/-- No value. -/
def null : Setting := .scalar none .null

instance : Inhabited Setting := ⟨null⟩

/-- A table without entries. -/
def noEntries : Setting := .table none []

/-- The file that the setting comes from. -/
def origin : Setting → Option String
  | .scalar origin _ => origin
  | .list origin _ => origin
  | .table origin _ => origin

mutual

/-- The settings that a value stands for. -/
def ofValue (origin : Option String) : Value → Setting
  | .list items => .list origin (ofItems origin items)
  | .map fields => .table origin (ofFields origin fields)
  | value => .scalar origin value

/-- The settings of the items of a list. -/
def ofItems (origin : Option String) : List Value → List Setting
  | [] => []
  | item :: rest => ofValue origin item :: ofItems origin rest

/-- The settings of the fields of a map. -/
def ofFields (origin : Option String) : List (String × Value) → List (String × Setting)
  | [] => []
  | (name, value) :: rest => (name, ofValue origin value) :: ofFields origin rest

end

/-- Sets an entry; a known name keeps its place. -/
def putEntry (name : String) (value : Setting) : List (String × Setting) → List (String × Setting)
  | [] => [(name, value)]
  | (n, v) :: rest => if n = name then (n, value) :: rest else (n, v) :: putEntry name value rest

/-- The entry with a name in a table's entries. -/
def field? (name : String) (entries : List (String × Setting)) : Option Setting :=
  entries.lookup name

/-- The entries and the origin of a table; anything else counts as a new one. -/
def asTable : Setting → Option String × List (String × Setting)
  | .table origin entries => (origin, entries)
  | _ => (none, [])

mutual

/-- Puts `incoming` under a name of `base`, in small letters as far as these are plain.  A table is
merged into what stands there, entry by entry; anything else replaces it.  What is no table becomes
one. -/
def merge (base : Setting) (name : String) : (incoming : Setting) → Setting
  | .table _ entries =>
    let (origin, known) := base.asTable
    let name := plainLower name
    let inner := mergeAll ((field? name known).getD noEntries) entries
    .table origin (putEntry name inner known)
  | other =>
    let (origin, known) := base.asTable
    .table origin (putEntry (plainLower name) other known)

/-- Merges all entries of a table into `base`. -/
def mergeAll (base : Setting) : List (String × Setting) → Setting
  | [] => base
  | (name, value) :: rest => mergeAll (base.merge name value) rest

end

end Setting

/-- How a setting is addressed: by a name, and from there by names and positions. -/
inductive KeyPath where
  | root (name : String)
  | child (parent : KeyPath) (name : String)
  | item (parent : KeyPath) (index : Int)
deriving DecidableEq, Repr

namespace KeyPath

/-- Whether a character may stand in a name. -/
def isNameChar (c : Char) : Bool := c.isAlphanum || c == ' ' || c == '_' || c == '-'

/-- The longest name at the start, if there is one. -/
def name? (text : List Char) : Option (String × List Char) :=
  let name := text.takeWhile isNameChar
  if name.isEmpty then none else some (String.ofList name, text.dropWhile isNameChar)

/-- An index with its closing bracket, blanks around it allowed. -/
def index? (text : List Char) : Option (Int × List Char) :=
  let isSpace (c : Char) : Bool := c == ' ' || c == '\t'
  let text := text.dropWhile isSpace
  let (negative, text) := match text with
    | '-' :: rest => (true, rest)
    | rest => (false, rest)
  let digits := text.takeWhile Char.isDigit
  let value := digits.foldl (fun n c => 10 * n + (c.toNat - '0'.toNat)) 0
  match digits, (text.dropWhile Char.isDigit).dropWhile isSpace with
  | _ :: _, ']' :: rest =>
    let index : Int := if negative then -value else value
    if IntRange.signed64.holds index then some (index, rest) else none
  | _, _ => none

/-- The steps after the first name, for texts no longer than `fuel`. -/
def steps? : (fuel : Nat) → KeyPath → List Char → Option KeyPath
  | _, path, [] => some path
  | 0, _, _ => none
  | fuel + 1, path, '.' :: rest => do
    let (name, rest) ← name? rest
    steps? fuel (.child path name) rest
  | fuel + 1, path, '[' :: rest => do
    let (index, rest) ← index? rest
    steps? fuel (.item path index) rest
  | _ + 1, _, _ => none

/-- Reads an address. -/
def parse? (text : String) : Option KeyPath := do
  let (name, rest) ← name? text.toList
  steps? rest.length (.root name) rest

/-- The position an index means in a list of this length; negative ones count from the end. -/
def position (index : Int) (length : Nat) : Nat :=
  if 0 ≤ index then index.toNat else length - index.natAbs

end KeyPath

namespace Setting

/-- Replaces the item at a position; a list that is too short is filled up. -/
def putItem (position : Nat) (value : Setting) (items : List Setting) : List Setting :=
  (items ++ List.replicate (position + 1 - items.length) null).set position value

/-- The items and the origin of a list; anything else counts as a new one. -/
def asList : Setting → Option String × List Setting
  | .list origin items => (origin, items)
  | _ => (none, [])

/-- Changes what stands under a name of a table, making the entry if there is none. -/
def changeEntry (name : String) (change : Setting → Setting) (table : Setting) : Setting :=
  let (origin, entries) := table.asTable
  let name := plainLower name
  .table origin (putEntry name (change ((field? name entries).getD null)) entries)

/-- Changes what stands at a position of a list, filling up the list if it is too short. -/
def changeItem (index : Int) (change : Setting → Setting) (list : Setting) : Setting :=
  let (origin, items) := list.asList
  let position := KeyPath.position index items.length
  .list origin (putItem position (change (items.getD position null)) items)

/-- Changes what stands at an address, making what is missing on the way there. -/
def changeAt : KeyPath → (change : Setting → Setting) → (root : Setting) → Setting
  | .root name, change => changeEntry name change
  | .child parent name, change => changeAt parent (changeEntry name change)
  | .item parent index, change => changeAt parent (changeItem index change)

/-- Puts a setting at an address: under a name it is merged, at a position it replaces. -/
def setAt : KeyPath → (value : Setting) → (root : Setting) → Setting
  | .root name, value => (merge · name value)
  | .child parent name, value => changeAt parent (merge · name value)
  | .item parent index, value => changeAt (.item parent index) fun _ => value

end Setting

end TreeOutline
