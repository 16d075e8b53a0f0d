namespace TreeOutline

/-!
# Scripts

* `Shell.Part`, `Shell.Word` — a word as it is written, before anything in it is replaced.
* `Shell.Use` — what is made of a parameter's value.
* `Shell.Command`, `Shell.Statement` — commands, and how they are joined.
-/

namespace Shell

/-- What the word behind a parameter's name is for. -/
inductive Fallback where
  /-- It takes the place of the parameter where that is not set. -/
  | replace
  /-- It also becomes the value of the parameter. -/
  | assign
  /-- It is the complaint with which the script ends where the parameter is not set. -/
  | complain
  /-- It takes the place of the parameter where that is set. -/
  | exchange
deriving DecidableEq, Repr

mutual

/-- A part of a word.  What stands in for a quoted part is not split into fields. -/
inductive Part where
  | text (text : String) (quoted : Bool)
  | parameter (name : String) (use : Use) (quoted : Bool)
  /-- What a script prints. -/
  | output (script : List Statement) (quoted : Bool)
  /-- The value of an arithmetic expression. -/
  | sum (expression : List Part) (quoted : Bool)

/-- What is made of a parameter's value. -/
inductive Use where
  | value
  | length
  /-- The value or a word, depending on whether it is set, and with `orEmpty` also on whether it is
  empty. -/
  | fallback (kind : Fallback) (orEmpty : Bool) (word : List Part)
  /-- The value without what a pattern matches at one of its ends. -/
  | trimmed (atEnd longest : Bool) (pattern : List Part)
  /-- Something that is refused when it is to be replaced. -/
  | refused

/-- Where a command reads from or prints to. -/
inductive Redirection where
  | input (stream : Nat) (path : List Part)
  | text (content : List Part)
  | output (stream : Nat) (append : Bool) (path : List Part)
  | duplicate (stream : Nat) (source : List Part)

/-- A command. -/
inductive Command where
  | simple (line : Nat) (settings : List (String × List Part)) (words : List (List Part))
      (redirections : List Redirection)
  | group (isolated : Bool) (body : List Statement) (redirections : List Redirection)
  | choice (branches : List (List Statement × List Statement)) (otherwise : List Statement)
      (redirections : List Redirection)
  | loop (untilHolds : Bool) (condition body : List Statement) (redirections : List Redirection)
  | each (name : String) (words : List (List Part)) (body : List Statement)
      (redirections : List Redirection)
  | selection (word : List Part) (branches : List (List (List Part) × List Statement))
      (redirections : List Redirection)
  | definition (name : String) (body : Command)

/-- Commands that are joined. -/
inductive Statement where
  | pipeline (negated : Bool) (commands : List Command)
  | both (first second : Statement)
  | either (first second : Statement)
  /-- A statement that is not waited for. -/
  | aside (statement : Statement)

end

instance : Inhabited Statement := ⟨.pipeline false []⟩

instance : Inhabited Command := ⟨.simple 1 [] [] []⟩

/-- A word, by its parts. -/
abbrev Word := List Part

end Shell

end TreeOutline
