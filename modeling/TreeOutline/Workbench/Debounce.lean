namespace TreeOutline

/-!
# Waiting for quiet

* `Debounce` — a quiet period and the deadline of the wait in progress.
* `Debounce.input` — an input starts the wait again; `Debounce.cancel` ends it.
* `Debounce.poll` — fires once, when the deadline has passed.

Time is a number of milliseconds that the caller passes in; it may go backwards.
-/

/-- Milliseconds. -/
abbrev Time := Nat

/-- A quiet period, and the deadline of the wait in progress. -/
structure Debounce where
  quiet : Time
  deadline : Option Time
deriving DecidableEq, Repr

namespace Debounce

/-- No wait in progress. -/
def idle (quiet : Time) : Debounce := ⟨quiet, none⟩

/-- An input: the wait starts again. -/
def input (d : Debounce) (now : Time) : Debounce := { d with deadline := some (now + d.quiet) }

/-- Ends the wait without firing. -/
def cancel (d : Debounce) : Debounce := { d with deadline := none }

/-- Whether a wait is in progress. -/
def isPending (d : Debounce) : Bool := d.deadline.isSome

/-- Whether the deadline has passed. -/
def isDue (d : Debounce) (now : Time) : Bool :=
  match d.deadline with
  | some deadline => decide (deadline ≤ now)
  | none => false

/-- Fires when the deadline has passed, and then waits no more. -/
def poll (d : Debounce) (now : Time) : Bool × Debounce :=
  if d.isDue now then (true, d.cancel) else (false, d)

@[simp] theorem isPending_input (d : Debounce) (now : Time) : (d.input now).isPending = true := rfl

@[simp] theorem isPending_cancel (d : Debounce) : d.cancel.isPending = false := rfl

@[simp] theorem isDue_input (d : Debounce) (time now : Time) :
    (d.input time).isDue now = decide (time + d.quiet ≤ now) := rfl

@[simp] theorem isDue_cancel (d : Debounce) (now : Time) : d.cancel.isDue now = false := rfl

end Debounce

end TreeOutline
