import TreeOutline.Files.Basic

namespace TreeOutline

/-!
# Watching a file

A watch looks at the time of a file's last change and reads it again when that time is another
one.  Each step looks at the file twice; between the looks the file may change, so both looks are
arguments.

* `FileState`, `Look` — what stands at a path and the time of its last change, if anything does.
* `FileWatch.read` — reads, and after that notes the time.
* `FileWatch.poll` — looks at the time, and after that reads if it is news.
-/

/-- What a look at a path shows: what stands there, and the time of its last change in seconds. -/
structure FileState where
  found : Files.Found
  modified : Int
deriving DecidableEq, Repr

/-- A look at a path, which may lead nowhere. -/
abbrev Look := Except FileProblem FileState

/-- The text that a look shows. -/
def Look.text (look : Look) : Except FileProblem String := do
  textOfBytes (← (← look).found.contents)

/-- The time of the change that was read last. -/
structure FileWatch where
  modified : Option Int
deriving DecidableEq, Repr

namespace FileWatch

/-- Nothing read yet. -/
def initial : FileWatch := ⟨none⟩

/-- Reads the file as it is at the first look and notes its time at the second. -/
def read (watch : FileWatch) (first second : Look) : Except FileProblem String × FileWatch :=
  match first.text with
  | .ok text => (.ok text, ⟨second.toOption.map FileState.modified⟩)
  | .error problem => (.error problem, watch)

/-- Looks at the time, and reads the file at the second look when that time is not the one noted.
A missing file is no news. -/
def poll (watch : FileWatch) (first second : Look) :
    Except FileProblem (Option String) × FileWatch :=
  match first with
  | .error .notFound => (.ok none, watch)
  | .error problem => (.error problem, watch)
  | .ok file =>
    if watch.modified = some file.modified then (.ok none, watch)
    else
      match second.text with
      | .ok text => (.ok (some text), ⟨some file.modified⟩)
      | .error .notFound => (.ok none, watch)
      | .error problem => (.error problem, watch)

end FileWatch

end TreeOutline
