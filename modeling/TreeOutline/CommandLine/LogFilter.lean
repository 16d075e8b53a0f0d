import TreeOutline.Text.Blank
import TreeOutline.Text.Table.Alphanumeric

namespace TreeOutline

/-!
# Filters of the log

A filter is a list of directives with commas between them.  A directive is a level, or a target or
a span in brackets or both, and a level after an equals sign perhaps.

* `isLogLevel` — whether a text names a level.
* `DirectiveProblem` — what can be wrong with a directive; `directiveProblem?` finds it.
* `filterComplaints` — the lines about directives that are left out.
-/

/-- The names of the levels. -/
def logLevels : List String := ["off", "error", "warn", "info", "debug", "trace"]

/-- Whether a text names a level: by its name in letters of any size, or by a number up to five,
with a plus sign perhaps. -/
def isLogLevel (text : List Char) : Bool :=
  let digits := if text.head? = some '+' then text.drop 1 else text
  logLevels.contains (String.ofList (text.map Char.toLower)) ||
    (!digits.isEmpty && digits.all Char.isDigit &&
      digits.foldl (fun n c => 10 * n + (c.toNat - '0'.toNat)) 0 ≤ 5)

/-- What can be wrong with a directive. -/
inductive DirectiveProblem where
  | invalid
  | badLevel
deriving DecidableEq, Repr

/-- The wording of a problem. -/
def DirectiveProblem.message : DirectiveProblem → String
  | .invalid => "invalid filter directive"
  | .badLevel => "error parsing level filter: expected one of \"off\", \"error\", \"warn\", " ++
      "\"info\", \"debug\", \"trace\", or a number 0-5"

/-- The text after some octets. -/
def afterOctets : (count : Nat) → List Char → List Char
  | 0, text => text
  | _, [] => []
  | count, c :: rest => afterOctets (count - c.utf8Size) rest

/-- What is wrong with a level; none may be given. -/
def levelProblem? (level : List Char) : Option DirectiveProblem :=
  if level.isEmpty || isLogLevel level then none else some .badLevel

/-- A reader's place in a directive: what is left, and how many octets of it are behind. -/
structure DirectivePlace where
  rest : List Char
  behind : Nat

namespace DirectivePlace

/-- The place behind the first character that is one of `marks`, and that character. -/
def find? (place : DirectivePlace) (marks : List Char) : Option (Char × DirectivePlace) :=
  let passed := place.rest.takeWhile (!marks.contains ·)
  match place.rest.drop passed.length with
  | mark :: rest =>
    some (mark, ⟨rest, (passed ++ [mark]).foldl (fun n c => n + c.utf8Size) place.behind⟩)
  | [] => none

end DirectivePlace

/-- What is wrong with a directive from a span's opening bracket on: it is closed by a bracket, with
one field in braces before that perhaps, and only a level may follow.  `whole` is the directive
with the blanks around it, in which the level is looked up. -/
def spanProblem? (whole : List Char) (place : DirectivePlace) : Option DirectiveProblem :=
  let closed (place : DirectivePlace) : Option DirectiveProblem :=
    match place.rest with
    | [] => none
    | '=' :: _ => levelProblem? (afterOctets (place.behind + 1) whole)
    | _ => some .invalid
  match place.find? [']', '\x7b'] with
  | some (']', after) => closed after
  | some (_, field) =>
    match field.find? ['\x7d'] with
    | some (_, ⟨']' :: rest, behind⟩) =>
      if field.rest.head? = some '\x7d' then some .invalid else closed ⟨rest, behind + 1⟩
    | _ => some .invalid
  | none => some .invalid

/-- What is wrong with a directive. -/
def directiveProblem? (directive : String) : Option DirectiveProblem :=
  let whole := directive.toList
  let text := (trimBlanks directive).toList
  match text with
  | [] => some .invalid
  | '[' :: rest => spanProblem? whole ⟨rest, 1⟩
  | c :: _ =>
    if ['-', ':', '_'].contains c || inRanges alphanumericRanges c then
      match (DirectivePlace.mk text 0).find? ['=', '['] with
      | some ('=', after) => levelProblem? (afterOctets after.behind whole)
      | some (_, after) => spanProblem? whole after
      | none => none
    else some .invalid

/-- The lines about directives that are left out. -/
def filterComplaints (filter : String) : List String :=
  ((filter.splitOn ",").filter (· ≠ "")).filterMap fun directive =>
    (directiveProblem? directive).map fun problem =>
      s!"ignoring `{directive}`: {problem.message}"

end TreeOutline
