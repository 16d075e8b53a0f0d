import TreeOutline.Shell.Pattern

namespace TreeOutline

/-!
# Programs for records

A program has rules: what is done with each record that a condition holds for, and before the first
and behind the last one.

* `Shell.Awk.Expr`, `Shell.Awk.Cell` — what has a value, and what can be given one.
* `Shell.Awk.Statement` — what is done.
* `Shell.Awk.Rule`, `Shell.Awk.Function`, `Shell.Awk.Program` — programs.
-/

namespace Shell

namespace Awk

/-- Operations on numbers. -/
inductive Operation where
  | plus
  | minus
  | times
  | over
  | modulo
  | power
deriving DecidableEq, Repr

/-- Comparisons. -/
inductive Relation where
  | less
  | lessOrEqual
  | equal
  | different
  | greater
  | greaterOrEqual
deriving DecidableEq, Repr

/-- The functions that are always there. -/
inductive Builtin where
  | length
  | substr
  | index
  | split
  | sub
  | gsub
  | match'
  | sprintf
  | sin
  | cos
  | atan2
  | exp
  | log
  | sqrt
  | int
  | rand
  | srand
  | tolower
  | toupper
  | system
  | close
  | fflush
deriving DecidableEq, Repr

mutual

/-- What can be given a value. -/
inductive Cell where
  | scalar (name : String)
  | element (table : String) (subscript : List Expr)
  | field (number : Expr)

/-- What has a value. -/
inductive Expr where
  | number (x : Float)
  | text (chars : List Char)
  | pattern (pattern : Pattern)
  | cell (cell : Cell)
  | assign (cell : Cell) (operation : Option Operation) (value : Expr)
  /-- One more or less; the value is that before or behind the step. -/
  | step (cell : Cell) (up before : Bool)
  | conditional (condition first second : Expr)
  | both (first second : Expr)
  | either (first second : Expr)
  | contains (table : String) (subscript : List Expr)
  | matching (negated : Bool) (text pattern : Expr)
  | relation (relation : Relation) (first second : Expr)
  | joined (first second : Expr)
  | operation (operation : Operation) (first second : Expr)
  | negated (value : Expr)
  | signed (minus : Bool) (value : Expr)
  | call (name : String) (arguments : List Expr)
  | builtin (function : Builtin) (arguments : List Expr)
  /-- The next record of the input, of a file or of what a command prints. -/
  | nextRecord (source : LineSource) (target : Option Cell)

/-- Where a record comes from. -/
inductive LineSource where
  | input
  | file (path : Expr)
  | command (text : Expr)

end

instance : Inhabited Expr := ⟨.text []⟩

/-- Where something is printed. -/
inductive Output where
  | standard
  | file (append : Bool) (path : Expr)
  | command (text : Expr)

/-- What is done. -/
inductive Statement where
  | empty
  | value (value : Expr)
  | print (values : List Expr) (output : Output)
  | printf (values : List Expr) (output : Output)
  | block (statements : List Statement)
  | choice (condition : Expr) (first : Statement) (second : Option Statement)
  /-- A loop whose body comes behind its condition, or in front of it. -/
  | loop (bodyFirst : Bool) (condition : Expr) (body : Statement)
  | count (start : Option Expr) (condition : Option Expr) (step : Option Expr) (body : Statement)
  | each (name table : String) (body : Statement)
  | next
  | nextFile
  | exit (status : Option Expr)
  | leave
  | again
  | return (value : Option Expr)
  | delete (table : String) (subscript : List Expr)

instance : Inhabited Statement := ⟨.empty⟩

/-- When a rule applies. -/
inductive Condition where
  | start
  | finish
  | always
  | holds (condition : Expr)
  | range (first last : Expr)

/-- A rule; one without a body prints the record. -/
structure Rule where
  condition : Condition
  body : Option (List Statement)

/-- A function that a program defines. -/
structure Function where
  name : String
  parameters : List String
  body : List Statement

/-- A program. -/
structure Program where
  rules : List Rule
  functions : List Function

end Awk

end Shell

end TreeOutline
