import TreeOutline.Shell.Tool.Basic

namespace TreeOutline

/-!
# Tabs and blanks

* `Shell.TabStops` — the columns that tabs lead to; `TabStops.read` reads them.
* `TabStops.lt_of_next?` — the next stop is behind the column.
* `Shell.expand` — blanks in the place of tabs.
* `Shell.unexpand` — tabs in the place of blanks.
-/

namespace Shell

/-! ### Stops -/

/-- What comes behind the last stop that is named: nothing, a stop at every multiple of a number, or
stops at a distance. -/
inductive MoreStops where
  | none
  | multiples (step : Nat)
  | distances (step : Nat)
deriving DecidableEq, Repr

/-- The columns that tabs lead to: some that are named, in their order, and more behind them. -/
structure TabStops where
  named : List Nat
  more : MoreStops

/-- Why columns of tabs cannot be used. -/
inductive TabFault where
  | badLetter (text : String)
  | zero
  | descending
deriving DecidableEq, Repr

/-- The wording of a fault. -/
def TabFault.message : TabFault → String
  | .badLetter text => s!"tab size contains invalid character(s): '{text}'"
  | .zero => "tab size cannot be 0"
  | .descending => "tab sizes must be ascending"

namespace TabStops

/-- Stops at every multiple of eight. -/
def usual : TabStops := ⟨[], .multiples 8⟩

/-- Reads the numbers of a list between commas or blanks, each with the mark in front of it. -/
def numbers : (fuel : Nat) → List Char → Except TabFault (List (Option Char × Nat))
  | 0, _ => .ok []
  | fuel + 1, chars => do
    match chars with
    | [] => .ok []
    | c :: rest =>
      if c = ',' ∨ c = ' ' ∨ c = '\t' then numbers fuel rest
      else
        let (mark, chars) : Option Char × List Char :=
          if c = '/' ∨ c = '+' then (some c, rest) else (none, c :: rest)
        match leadingNat chars with
        | (some n, rest) => do
          let more ← numbers fuel rest
          .ok ((mark, n) :: more)
        | (none, rest) => .error (.badLetter (String.ofList rest))

/-- Reads stops: a single number stands for its multiples. -/
def read (lists : List String) : Except TabFault TabStops := do
  let items ← numbers ((",".intercalate lists).length + 1) (",".intercalate lists).toList
  let named := (items.filter (·.1.isNone)).map (·.2)
  if items.any fun (mark, n) => mark.isNone && n = 0 then .error .zero
  if (named.zip (named.drop 1)).any fun (a, b) => b ≤ a then .error .descending
  match named, items.reverse.find? (·.1.isSome) with
  | [], none => .ok usual
  | [n], none => .ok ⟨[], .multiples n⟩
  | named, none => .ok ⟨named, .none⟩
  | named, some (_, 0) => .ok ⟨named, .none⟩
  | named, some (mark, n) => .ok ⟨named, if mark = some '/' then .multiples n else .distances n⟩

/-- The stops behind the named ones are at a distance from each other. -/
def Spaced (stops : TabStops) : Prop :=
  match stops.more with
  | .none => True
  | .multiples step | .distances step => 0 < step

/-- Without a zero among the numbers that have no mark, those are positive. -/
theorem pos_of_mem_named {items : List (Option Char × Nat)}
    (hzero : ¬(items.any fun (mark, n) => mark.isNone && n = 0) = true) {n : Nat}
    (hn : n ∈ (items.filter (·.1.isNone)).map (·.2)) : 0 < n := by
  obtain ⟨item, hitem, rfl⟩ := List.mem_map.1 hn
  refine Nat.pos_of_ne_zero fun hitemZero => hzero (List.any_eq_true.2 ⟨item, ?_⟩)
  exact ⟨(List.mem_filter.1 hitem).1, by simp [hitemZero, (List.mem_filter.1 hitem).2]⟩

/-- **Stops that are read** are so. -/
theorem spaced_of_read {lists : List String} {stops : TabStops} (h : read lists = .ok stops) :
    stops.Spaced := by
  unfold read at h
  cases hitems : numbers ((",".intercalate lists).length + 1) (",".intercalate lists).toList with
  | error fault =>
    rw [hitems] at h
    exact absurd h (by simp [bind, Except.bind])
  | ok items =>
    rw [hitems] at h
    simp only [bind, Except.bind] at h
    split at h
    next => exact absurd h (by simp)
    next hzero =>
      split at h
      next => exact absurd h (by simp)
      next =>
        split at h <;> obtain rfl := Except.ok.inj h
        next => exact (by decide : 0 < 8)
        next n hnamed hmore =>
          exact pos_of_mem_named hzero (hnamed ▸ List.mem_singleton_self n)
        next => exact trivial
        next => exact trivial
        next mark n hpos hmore =>
          have hstep : 0 < n := Nat.pos_of_ne_zero hpos
          unfold Spaced
          by_cases hmark : mark = some '/'
          · rw [if_pos hmark]
            exact hstep
          · rw [if_neg hmark]
            exact hstep

/-- The next stop behind a column, if there is one. -/
def next? (stops : TabStops) (column : Nat) : Option Nat :=
  match stops.named.find? (column < ·), stops.more with
  | some stop, _ => some stop
  | none, .none => none
  | none, .multiples step => some (step * (column / step + 1))
  | none, .distances step =>
    let last := stops.named.getLastD 0
    some (last + step * ((column - last) / step + 1))

/-- **A tab leads on**: the next stop is behind the column. -/
theorem lt_of_next? {stops : TabStops} (hspaced : stops.Spaced) {column stop : Nat}
    (h : stops.next? column = some stop) : column < stop := by
  have hstep (step n : Nat) (hpos : 0 < step) : n < step * (n / step + 1) := by
    rw [Nat.mul_add, Nat.mul_one]
    have := Nat.div_add_mod n step
    have := Nat.mod_lt n hpos
    omega
  unfold next? at h
  unfold Spaced at hspaced
  split at h
  next other _ hfound =>
    obtain rfl := Option.some.inj h
    simpa using List.find?_some hfound
  next => simp at h
  next step hfound hmore =>
    rw [hmore] at hspaced
    obtain rfl := Option.some.inj h
    exact hstep step column hspaced
  next step hfound hmore =>
    rw [hmore] at hspaced
    obtain rfl := Option.some.inj h
    have hbehind := hstep step (column - stops.named.getLastD 0) hspaced
    omega

end TabStops

/-- A tool that works with stops; digits behind a dash name them too. -/
def withStops (task : Task) (tool : String) (table : OptionTable)
    (use : TabStops → List (Char × String) → List String → Report) : Report :=
  task.withOptions tool 1 table fun options paths =>
    match TabStops.read ((options.filter fun (c, _) => c = 't' ∨ c = '#').map (·.2)) with
    | .error fault => .complaining task 1 s!"{tool}: {fault.message}"
    | .ok stops => use stops options paths

/-! ### Tabs as blanks -/

/-- Writes blanks for tabs, up to the next stop, or with `-i` only for those at the start of lines.
Behind the last stop a tab is one blank. -/
def expand (task : Task) : Report :=
  let table : OptionTable := ⟨"i", "t#", [("tabs", 't'), ("initial", 'i')]⟩
  withStops task "expand" table fun stops options paths =>
    let onlyFirst := hasOption options 'i'
    task.throughEach paths (Task.missing "expand") fun text =>
      (text.foldl (fun (done, column, active) c =>
        if c = '\n' then ('\n' :: done, 0, true)
        else if ¬ active then (c :: done, column, active)
        else if c = '\t' then
          let next := (stops.next? column).getD (column + 1)
          (List.replicate (next - column) ' ' ++ done, next, active)
        else
          (c :: done, if c = '\x08' then column - 1 else column + 1, !onlyFirst || c == ' '))
        (([], 0, true) : List Char × Nat × Bool)).1.reverse

/-! ### Blanks as tabs -/

/-- The blanks that are held back before it is known whether a tab stands for them: how many there
are, latest first; the column; whether the last one stands alone in front of a stop, and whether the
letter before was a blank; and whether blanks are still replaced in this line. -/
structure Blanks where
  held : List Char
  column : Nat
  beforeStop : Bool
  afterBlank : Bool
  active : Bool

namespace Blanks

/-- The start of a line. -/
def start : Blanks := ⟨[], 0, false, true, true⟩

/-- What is written of the blanks that are held back. -/
def release (blanks : Blanks) : List Char :=
  let held := blanks.held.reverse
  if 1 < held.length ∧ blanks.beforeStop then '\t' :: held.drop 1 else held

/-- Takes one more letter: what is written now, and the blanks behind it. -/
def take (stops : TabStops) (everywhere : Bool) (blanks : Blanks) (c : Char) :
    List Char × Blanks :=
  let written (blanks : Blanks) (c : Char) (column : Nat) (isBlank : Bool) : List Char × Blanks :=
    (blanks.release ++ [c], ⟨[], column, false, isBlank, everywhere || isBlank⟩)
  let replaced (column : Nat) : List Char × Blanks :=
    let kept := if blanks.beforeStop then ['\t'] else []
    written { blanks with held := kept } '\t' column true
  if c = '\n' then (blanks.release ++ ['\n'], start)
  else if ¬ blanks.active then ([c], blanks)
  else if c = '\t' ∨ c = ' ' then
    match stops.next? blanks.column with
    | none => (blanks.release ++ [c], { blanks with held := [], active := false })
    | some next =>
      let column := blanks.column + 1
      if c = '\t' then replaced next
      else if blanks.afterBlank ∧ column = next then replaced column
      else ([], { blanks with
        held := ' ' :: blanks.held
        column
        beforeStop := blanks.beforeStop || column = next
        afterBlank := true })
  else written blanks c (if c = '\x08' then blanks.column - 1 else blanks.column + 1) false

end Blanks

/-- Writes tabs for blanks in front of stops: at the start of lines, or with `-a` everywhere. -/
def unexpand (task : Task) : Report :=
  let table : OptionTable :=
    ⟨"af", "t#", [("all", 'a'), ("first-only", 'f'), ("tabs", 't')]⟩
  withStops task "unexpand" table fun stops options paths =>
    let everywhere := (hasOption options 'a' || hasOption options 't') && !hasOption options 'f'
    task.throughEach paths (Task.missing "unexpand") fun text =>
      let (written, blanks) := text.foldl (fun (written, blanks) c =>
        let (now, blanks) := Blanks.take stops everywhere blanks c
        (now.reverse ++ written, blanks)) ([], Blanks.start)
      written.reverse ++ blanks.release

end Shell

end TreeOutline
