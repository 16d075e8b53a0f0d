import TreeOutline.Settings.Toml.Scalar
import TreeOutline.Settings.Toml.Syntax

namespace TreeOutline

/-!
# Settings files

A file is a list of statements, and these build tables inside tables.

* `Toml.Statement`, `Toml.statements?` — the statements of a text.
* `Toml.Table` — a table in the making, which knows how it came to be.
* `Toml.Table.put?` — a setting under a key of several parts; `Toml.Builder.step?` — one statement.
* `Toml.read?` — the table of a whole text.
-/

namespace Toml

/-! ### Tables in the making -/

/-- How a table came to be. -/
inductive Origin where
  /-- By a header of its own, or as the table of the whole file. -/
  | header
  /-- By the header of a table inside it. -/
  | passage
  /-- By a key of several parts. -/
  | dottedKey
deriving DecidableEq, Repr

mutual

/-- What a name stands for. -/
inductive Entry where
  /-- A finished value; nothing can be added to it. -/
  | value (v : Value)
  | table (t : Table)
  /-- A list of tables, the last one first. -/
  | tables (last : Table) (before : List Table)

/-- A table in the making. -/
inductive Table where
  | mk (origin : Origin) (entries : List (String × Entry))

end

namespace Table

/-- How the table came to be. -/
def origin : Table → Origin
  | .mk origin _ => origin

/-- The entries of the table. -/
def entries : Table → List (String × Entry)
  | .mk _ entries => entries

/-- A table without entries. -/
def empty (origin : Origin) : Table := .mk origin []

instance : Inhabited Table := ⟨.empty .header⟩

/-- Sets an entry; a known name keeps its place. -/
def set (t : Table) (name : String) (entry : Entry) : Table :=
  let rec replace : List (String × Entry) → List (String × Entry)
    | [] => [(name, entry)]
    | (n, e) :: rest => if n = name then (n, entry) :: rest else (n, e) :: replace rest
  .mk t.origin (replace t.entries)

/-- A setting under a key of several parts.  Tables made by such keys can be extended by other
such keys, and by no others; a name can be set once. -/
def put? (t : Table) : (path : List String) → Value → Option Table
  | [], _ => none
  | [name], value =>
    match t.entries.lookup name with
    | none => some (t.set name (.value value))
    | some _ => none
  | name :: rest, value =>
    match t.entries.lookup name with
    | none => do
      let inner ← (Table.empty .dottedKey).put? rest value
      some (t.set name (.table inner))
    | some (.table inner) =>
      -- a table with a header of its own cannot be added to by a dotted key
      if inner.origin = .header ∨ (inner.origin = .passage ∧ rest.length = 1) then none
      else do
        let inner ← inner.put? rest value
        some (t.set name (.table inner))
    | some (.tables last before) =>
      if rest.length = 1 then none
      else do
        let last ← last.put? rest value
        some (t.set name (.tables last before))
    | some (.value _) => none

/-- Opens the table at a path by a header: a new one, or one that other headers passed through. -/
def openTable? (t : Table) : (path : List String) → (change : Table → Option Table) → Option Table
  | [], change => change t
  | [name], change =>
    match t.entries.lookup name with
    | none => do
      let inner ← change (.empty .header)
      some (t.set name (.table inner))
    | some (.table inner) =>
      -- a table met on the way to another may get its header once, later
      if inner.origin = .passage then do
        let inner ← change (.mk .header inner.entries)
        some (t.set name (.table inner))
      else none
    | _ => none
  | name :: rest, change =>
    match t.entries.lookup name with
    | none => do
      let inner ← (Table.empty .passage).openTable? rest change
      some (t.set name (.table inner))
    | some (.table inner) => do
      let inner ← inner.openTable? rest change
      some (t.set name (.table inner))
    -- below a list of tables a header means the last of them
    | some (.tables last before) => do
      let last ← last.openTable? rest change
      some (t.set name (.tables last before))
    | some (.value _) => none

/-- Adds a table to the list at a path. -/
def openInList? (t : Table) : (path : List String) → (change : Table → Option Table) → Option Table
  | [], _ => none
  | [name], change =>
    match t.entries.lookup name with
    | none => do
      let last ← change (.empty .header)
      some (t.set name (.tables last []))
    | some (.tables last before) => do
      -- the list keeps its last table apart, as later headers go into it
      let next ← change (.empty .header)
      some (t.set name (.tables next (last :: before)))
    | _ => none
  | name :: rest, change =>
    match t.entries.lookup name with
    | none => do
      let inner ← (Table.empty .passage).openInList? rest change
      some (t.set name (.table inner))
    | some (.table inner) => do
      let inner ← inner.openInList? rest change
      some (t.set name (.table inner))
    | some (.tables last before) => do
      let last ← last.openInList? rest change
      some (t.set name (.tables last before))
    | some (.value _) => none

end Table

mutual

/-- The finished value of an entry. -/
def Entry.close : Entry → Value
  | .value v => v
  | .table t => .map t.close
  | .tables last before => .list (closeAll before ++ [.map last.close])

/-- The finished entries of a table. -/
def Table.close : Table → List (String × Value)
  | .mk _ entries => closeEntries entries

/-- The finished tables of a list, which is kept backwards. -/
def closeAll : List Table → List Value
  | [] => []
  | t :: rest => closeAll rest ++ [.map t.close]

/-- The finished entries. -/
def closeEntries : List (String × Entry) → List (String × Value)
  | [] => []
  | (name, entry) :: rest => (name, entry.close) :: closeEntries rest

end

/-! ### Values -/

/-- Whether a character may stand in a word without quotes. -/
def isWordChar (c : Char) : Bool :=
  c.isAlphanum || c == '+' || c == '-' || c == '_' || c == '.' || c == ':'

/-- A word without quotes; a day may be followed by a blank and a time. -/
def word (text : List Char) : List Char × List Char :=
  let first := text.takeWhile isWordChar
  let rest := text.dropWhile isWordChar
  match date? first, rest with
  | some (_, []), ' ' :: c :: tail =>
    if isDigit c then
      (first ++ ' ' :: (c :: tail).takeWhile isWordChar, (c :: tail).dropWhile isWordChar)
    else (first, rest)
  | _, _ => (first, rest)

mutual

/-- A value in which lists and inline tables are nested no deeper than `depth`, for texts of less
than half of `fuel`. -/
def value (depth : Nat) : (fuel : Nat) → List Char → Option (Value × List Char)
  | 0, _ => none
  | fuel + 1, text =>
    match text, depth with
    | '"' :: rest, _ => (string '"' rest).map fun (s, rest) => (.str s, rest)
    | '\'' :: rest, _ => (string '\'' rest).map fun (s, rest) => (.str s, rest)
    -- at depth zero neither bracket is tried, and no word begins with one
    | '[' :: rest, depth + 1 => (items depth fuel rest).map fun (items, rest) => (.list items, rest)
    | '\x7b' :: rest, depth + 1 =>
      match skipBlanks rest with
      | '\x7d' :: rest => some (.map [], rest)
      | rest =>
        (pairs depth fuel (.empty .header) rest).map fun (t, rest) => (.map t.close, rest)
    | text, _ => do
      let (w, rest) := word text
      let v ← scalar? w
      some (v, rest)

/-- The items of a list up to its closing bracket. -/
def items (depth : Nat) : (fuel : Nat) → List Char → Option (List Value × List Char)
  | 0, _ => none
  | fuel + 1, text =>
    match skipSpace text.length text with
    | ']' :: rest => some ([], rest)
    | text => do
      let (item, rest) ← value depth fuel text
      match skipSpace rest.length rest with
      | ',' :: rest =>
        let (others, rest) ← items depth fuel rest
        some (item :: others, rest)
      | ']' :: rest => some ([item], rest)
      | _ => none

/-- The settings of an inline table up to its closing brace, added to a table. -/
def pairs (depth : Nat) : (fuel : Nat) → Table → List Char → Option (Table × List Char)
  | 0, _, _ => none
  | fuel + 1, t, text => do
    let (path, rest) ← key text
    match rest with
    | '=' :: rest =>
      let (v, rest) ← value depth fuel (skipBlanks rest)
      let t ← t.put? path v
      match skipBlanks rest with
      | ',' :: rest => pairs depth fuel t rest
      | '\x7d' :: rest => some (t, rest)
      | _ => none
    | _ => none

end

/-! ### Statements -/

/-- One statement of a file. -/
inductive Statement where
  | table (path : List String)
  | tableInList (path : List String)
  | setting (path : List String) (value : Value)

/-- One statement, without what ends its line. -/
def statement (text : List Char) : Option (Statement × List Char) :=
  match text with
  | '[' :: '[' :: rest => do
    let (path, rest) ← key rest
    match rest with
    | ']' :: ']' :: rest => some (.tableInList path, rest)
    | _ => none
  | '[' :: rest => do
    let (path, rest) ← key rest
    match rest with
    | ']' :: rest => some (.table path, rest)
    | _ => none
  | text => do
    let (path, rest) ← key text
    match rest with
    | '=' :: rest =>
      -- two steps for each character are enough: one to enter a value, one to leave it
      let (v, rest) ← value deepest (2 * rest.length + 2) (skipBlanks rest)
      some (.setting path v, rest)
    | _ => none

/-- The statements of a text, for texts shorter than `fuel`. -/
def statements : (fuel : Nat) → List Char → Option (List Statement)
  | 0, _ => some []
  | fuel + 1, text =>
    match skipSpace (text.length + 1) text with
    | [] => some []
    | text => do
      let (first, rest) ← statement text
      let rest ← endOfLine? rest
      let others ← statements fuel rest
      some (first :: others)

/-- The statements of a text, if it is written correctly. -/
def statements? (text : List Char) : Option (List Statement) := statements (text.length + 1) text

/-- The whole table so far, and how to get at the table that settings go to. -/
structure Builder where
  root : Table
  /-- The path of the table that was opened last. -/
  path : List String

/-- Changes the table at a path that is open: of a list of tables, the last. -/
def Table.changeAt? (t : Table) (change : Table → Option Table) : List String → Option Table
  | [] => change t
  | name :: rest =>
    match t.entries.lookup name with
    | some (.table inner) =>
      (inner.changeAt? change rest).map fun inner => t.set name (.table inner)
    | some (.tables last before) =>
      (last.changeAt? change rest).map fun last => t.set name (.tables last before)
    | _ => none

/-- One statement; it may be refused. -/
def Builder.step? (b : Builder) : Statement → Option Builder
  | .table path => (b.root.openTable? path some).map fun root => ⟨root, path⟩
  | .tableInList path => (b.root.openInList? path some).map fun root => ⟨root, path⟩
  | .setting path value =>
    (b.root.changeAt? (·.put? path value) b.path).map fun root => ⟨root, b.path⟩

/-- The settings of a text, if it is written correctly and nothing is set twice.  A mark of the
byte order at the start is passed over. -/
def read? (text : String) : Option (List (String × Value)) := do
  let text := match text.toList with
    | '\ufeff' :: rest => rest
    | text => text
  let statements ← statements? text
  let built ← statements.foldlM Builder.step? ⟨.empty .header, []⟩
  some built.root.close

end Toml

end TreeOutline
