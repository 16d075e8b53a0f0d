import TreeOutline.Shell.Tool.Lines

namespace TreeOutline

/-!
# Differences between files

* `Shell.Change` — lines of one file in the place of lines of another; `Shell.changes` — the
  changes that lead from one file to another and keep as many lines as possible; the steps that they
  are made of lead there (`Shell.edits_editSteps`).
* `Shell.diff` — shows changes.
-/

namespace Shell

/-- Lines that are removed and lines that are put in their place, by where they begin and how many
they are. -/
structure Change where
  oldStart : Nat
  oldCount : Nat
  newStart : Nat
  newCount : Nat
deriving DecidableEq, Repr

/-- How many lines can be kept from each position of the old lines on, for the new lines from one
position on, given those for the next position. -/
def keptRow {α : Type} [BEq α] (line : α) : (old : List α) → (next : List Nat) → List Nat
  | [], _ => [0]
  | other :: old, next =>
    let row := keptRow line old (next.drop 1)
    let best := if line == other then (next.getD 1 0) + 1 else max (next.headD 0) (row.headD 0)
    best :: row

/-- How many lines can be kept, for all positions of the new lines. -/
def keptTable {α : Type} [BEq α] (old : List α) : (new : List α) → List (List Nat)
  | [] => [List.replicate (old.length + 1) 0]
  | line :: new =>
    let table := keptTable old new
    keptRow line old (table.headD []) :: table

/-- Whether each step keeps a line (`none`), removes one or puts one in. -/
def editSteps {α : Type} [BEq α] : (fuel : Nat) → (table : List (List Nat)) → (old new : List α) →
    List (Option Bool)
  | 0, _, _, _ => []
  | fuel + 1, table, old, new =>
    match old, new with
    | [], new => new.map fun _ => some false
    | old, [] => old.map fun _ => some true
    | a :: s, b :: t =>
      let below := (table.drop 1).map id
      let behind := table.map (·.drop 1)
      if a == b then none :: editSteps fuel (behind.drop 1) s t
      else if (below.headD []).headD 0 ≤ (behind.headD []).headD 0 then
        some true :: editSteps fuel behind s (b :: t)
      else some false :: editSteps fuel below (a :: s) t

/-- Steps that lead from old items to new ones: a kept item stands in both, a removed one in the
old ones alone, and one that is put in the new ones alone. -/
inductive Edits {α : Type} : List (Option Bool) → List α → List α → Prop
  | nil : Edits [] [] []
  | keep {steps : List (Option Bool)} {old new : List α} (item : α) (rest : Edits steps old new) :
    Edits (none :: steps) (item :: old) (item :: new)
  | remove {steps : List (Option Bool)} {old new : List α} (item : α)
    (rest : Edits steps old new) : Edits (some true :: steps) (item :: old) new
  | put {steps : List (Option Bool)} {old new : List α} (item : α) (rest : Edits steps old new) :
    Edits (some false :: steps) old (item :: new)

/-- Items that are all removed, or all put. -/
theorem Edits.all {α : Type} (items : List α) :
    Edits (items.map fun _ => some true) items [] ∧
      Edits (items.map fun _ => some false) [] items := by
  induction items with
  | nil => exact ⟨.nil, .nil⟩
  | cons item items ih => exact ⟨ih.1.remove item, ih.2.put item⟩

/-- **The steps that are taken lead from the old lines to the new ones**, whatever the table says:
it only decides which lines are kept. -/
theorem edits_editSteps {α : Type} [BEq α] [LawfulBEq α] {fuel : Nat} {table : List (List Nat)}
    {old new : List α} (hfuel : old.length + new.length < fuel) :
    Edits (editSteps fuel table old new) old new := by
  fun_induction editSteps fuel table old new with
  | case1 => exact absurd hfuel (Nat.not_lt_zero _)
  | case2 fuel table new => exact (Edits.all new).2
  | case3 fuel table old hold => exact (Edits.all old).1
  | case4 fuel table a s b t behind hab ih =>
    obtain rfl := eq_of_beq hab
    exact (ih (by simp at hfuel; omega)).keep a
  | case5 fuel table a s b t below behind hab hle ih =>
    exact (ih (by simp at hfuel ⊢; omega)).remove a
  | case6 fuel table a s b t below behind hab hgt ih =>
    exact (ih (by simp at hfuel ⊢; omega)).put b

/-- Each old line is kept or removed, and each new one is kept or put. -/
theorem Edits.length_eq {α : Type} {steps : List (Option Bool)} {old new : List α}
    (h : Edits steps old new) : old.length = steps.count none + steps.count (some true) ∧
      new.length = steps.count none + steps.count (some false) := by
  induction h with
  | nil => exact ⟨rfl, rfl⟩
  | keep item rest ih => simp [ih.1, ih.2]; omega
  | remove item rest ih => simp [ih.1, ih.2]; omega
  | put item rest ih => simp [ih.1, ih.2]; omega

/-- The changes of some steps, from positions on. -/
def changesOf : (steps : List (Option Bool)) → (old new : Nat) → (current : Option Change) →
    List Change
  | [], _, _, current => current.toList
  | none :: rest, old, new, current => current.toList ++ changesOf rest (old + 1) (new + 1) none
  | some removed :: rest, old, new, current =>
    let change := current.getD ⟨old, 0, new, 0⟩
    if removed then
      changesOf rest (old + 1) new (some { change with oldCount := change.oldCount + 1 })
    else changesOf rest old (new + 1) (some { change with newCount := change.newCount + 1 })

/-- How far lines can be moved on without any difference: as long as the first of them equals the
one behind them. -/
def slide {α : Type} [BEq α] (lines : List α) (count : Nat) : (fuel start : Nat) → Nat
  | 0, start => start
  | fuel + 1, start =>
    match lines[start]?, lines[start + count]? with
    | some a, some b => if a == b then slide lines count fuel (start + 1) else start
    | _, _ => start

/-- Changes with lines that are only removed or only put in moved on as far as they can be. -/
def settled {α : Type} [BEq α] (old new : List α) : List Change → List Change
  | [] => []
  | change :: rest =>
    let room := match rest with
      | [] => old.length + new.length
      | next :: _ => min (next.oldStart - change.oldStart - change.oldCount)
          (next.newStart - change.newStart - change.newCount)
    let moved (steps : Nat) : Change :=
      { change with oldStart := change.oldStart + steps, newStart := change.newStart + steps }
    let change := match change.oldCount, change.newCount with
      | 0, count => moved (slide new count room change.newStart - change.newStart)
      | count, 0 => moved (slide old count room change.oldStart - change.oldStart)
      | _, _ => change
    change :: settled old new rest

/-- The changes that lead from old lines to new ones and keep as many as possible. -/
def changes {α : Type} [BEq α] (old new : List α) : List Change :=
  let steps := editSteps (old.length + new.length + 1) (keptTable old new) old new
  settled old new (changesOf steps 0 0 none)

/-! ### Showing changes -/

/-- A line behind a mark, with a note if it does not end. -/
def marked (mark : String) (line : List Char) : List Char :=
  mark.toList ++ withoutEnd line ++ ['\n'] ++
    (if line.contains '\n' then [] else "\\ No newline at end of file\n".toList)

/-- The numbers of lines, counted from one. -/
def lineNumbers (start count : Nat) : String :=
  if count ≤ 1 then toString (start + count) else s!"{start + 1},{start + count}"

/-- A change by its lines, with the letter for what it does. -/
def plainChange (old new : List (List Char)) (change : Change) : List Char :=
  let letter := if change.oldCount = 0 then "a" else if change.newCount = 0 then "d" else "c"
  let removed := (old.drop change.oldStart).take change.oldCount
  let put := (new.drop change.newStart).take change.newCount
  (lineNumbers change.oldStart change.oldCount ++ letter ++
    lineNumbers change.newStart change.newCount ++ "\n").toList ++
    removed.flatMap (marked "< ") ++ (if letter = "c" then ['-', '-', '-', '\n'] else []) ++
    put.flatMap (marked "> ")

/-- A change as an editor's command, with a point behind the lines that are put. -/
def editorChange (new : List (List Char)) (change : Change) : List Char :=
  let put := (new.drop change.newStart).take change.newCount
  let letter := if change.oldCount = 0 then "a" else if change.newCount = 0 then "d" else "c"
  (lineNumbers change.oldStart change.oldCount ++ letter ++ "\n").toList ++
    put.flatMap (marked "") ++ if put.isEmpty then [] else ['.', '\n']

/-- A change as commands that count the lines which they remove and put. -/
def countedChange (new : List (List Char)) (change : Change) : List Char :=
  let put := (new.drop change.newStart).take change.newCount
  (if change.oldCount = 0 then []
    else s!"d{change.oldStart + 1} {change.oldCount}\n".toList) ++
    if put.isEmpty then []
    else s!"a{change.oldStart + change.oldCount} {change.newCount}\n".toList ++ put.flatten

/-- Changes in groups that have at most so many lines between them. -/
def groupsOfChanges (gap : Nat) (changes : List Change) : List (List Change) :=
  changes.foldr (fun change groups =>
    match groups with
    | (next :: more) :: rest =>
      if next.oldStart ≤ change.oldStart + change.oldCount + gap then
        (change :: next :: more) :: rest
      else [change] :: (next :: more) :: rest
    | _ => [change] :: groups) []

/-- Groups leave no change out. -/
theorem flatten_groupsOfChanges (gap : Nat) (changes : List Change) :
    (groupsOfChanges gap changes).flatten = changes := by
  induction changes with
  | nil => rfl
  | cons change changes ih =>
    rw [groupsOfChanges, List.foldr_cons, ← groupsOfChanges]
    split
    next next more rest hgroups =>
      rw [hgroups] at ih
      split <;> simpa using ih
    next => simpa using ih

/-- The lines of a group of changes and those around it. -/
def unifiedLines (old new : List (List Char)) : (position last : Nat) → List Change → List Char
  | position, last, [] => ((old.drop position).take (last - position)).flatMap (marked " ")
  | position, last, change :: rest =>
    ((old.drop position).take (change.oldStart - position)).flatMap (marked " ") ++
      ((old.drop change.oldStart).take change.oldCount).flatMap (marked "-") ++
      ((new.drop change.newStart).take change.newCount).flatMap (marked "+") ++
      unifiedLines old new (change.oldStart + change.oldCount) last rest

/-- What a group of changes touches with lines around it, in the old text and in the new one. -/
def groupRange (context oldLength : Nat) (group : List Change) : (Nat × Nat) × Nat × Nat :=
  match group, group.getLast? with
  | first :: _, some final =>
    let start := first.oldStart - context
    let finish := min oldLength (final.oldStart + final.oldCount + context)
    ((start, finish), first.newStart - (first.oldStart - start),
      final.newStart + final.newCount + (finish - final.oldStart - final.oldCount))
  | _, _ => ((0, 0), 0, 0)

/-- A group of changes with the lines around it. -/
def unifiedGroup (context : Nat) (old new : List (List Char)) (group : List Change) : List Char :=
  let ((start, finish), newStart, newFinish) := groupRange context old.length group
  let range (start finish : Nat) : String :=
    let count := finish - start
    let first := if count = 0 then start else start + 1
    if count = 1 then toString first else s!"{first},{count}"
  s!"@@ -{range start finish} +{range newStart newFinish} @@\n".toList ++
    unifiedLines old new start finish group

/-- Lines of one side with marks for those that changes touch: places, counts and marks of these. -/
def contextLines (lines : List (List Char)) : (position last : Nat) → List (Nat × Nat × String) →
    List Char
  | position, last, [] => ((lines.drop position).take (last - position)).flatMap (marked "  ")
  | position, last, (start, count, mark) :: rest =>
    ((lines.drop position).take (start - position)).flatMap (marked "  ") ++
      ((lines.drop start).take count).flatMap (marked mark) ++
      contextLines lines (start + count) last rest

/-- A group of changes with the lines around it, first those of the old text and then those of the
new one; a side without changes is left out. -/
def contextGroup (context : Nat) (old new : List (List Char)) (group : List Change) : List Char :=
  let ((start, finish), newStart, newFinish) := groupRange context old.length group
  let range (start finish : Nat) : String :=
    if finish ≤ start + 1 then toString finish else s!"{start + 1},{finish}"
  let mark (change : Change) (alone : String) : String :=
    if change.oldCount = 0 ∨ change.newCount = 0 then alone else "! "
  let removed := group.map fun c => (c.oldStart, c.oldCount, mark c "- ")
  let put := group.map fun c => (c.newStart, c.newCount, mark c "+ ")
  let side (lines : List (List Char)) (start finish : Nat) (parts : List (Nat × Nat × String)) :
      List Char :=
    if parts.all (·.2.1 = 0) then [] else contextLines lines start finish parts
  s!"***************\n*** {range start finish} ****\n".toList ++ side old start finish removed ++
    s!"--- {range newStart newFinish} ----\n".toList ++ side new newStart newFinish put

/-- Shows how one file differs from another: `-q` only whether it does, `-s` also that it does not,
`-u` and `-c` with lines around the changes, `-e` and `-n` as commands for editors; `-i` ignores
case, `-w` and `-b` blanks. -/
def diff (task : Task) : Report :=
  let table : OptionTable := ⟨"qsuiwbBeaNrcnd", "UC#", [("brief", 'q'),
    ("report-identical-files", 's'), ("unified", 'u'), ("ignore-case", 'i'),
    ("ignore-all-space", 'w'), ("ignore-space-change", 'b'), ("text", 'a'), ("normal", 'd'),
    ("ed", 'e'), ("rcs", 'n'), ("context", 'c'), ("minimal", 'd')]⟩
  let usage (text : String) : Report := .complaining task 2
    s!"diff: {text}\ndiff: Try 'diff --help' for more information."
  match task.options table with
  | .error fault => usage fault.message
  | .ok (options, paths) =>
    let has := hasOption options
    let seen (line : List Char) : List Char :=
      let line := if has 'i' then line.map Char.toLower else line
      if has 'w' then line.filter fun c => !isSpaceByte c
      else if has 'b' then
        let words := (line.foldr (fun c words => match words with
          | [] => [[c]]
          | word :: rest =>
            if isSpaceByte c ∧ word.head?.any isSpaceByte then word :: rest
            else (c :: word) :: rest) []).flatten
        (words.map fun c => if isSpaceByte c then ' ' else c).reverse.dropWhile (· = ' ')
      else line
    match paths with
    | [] => usage "missing operand after 'diff'"
    | [path] => usage s!"missing operand after '{path}'"
    | _ :: _ :: third :: _ => usage s!"extra operand '{third}'"
    | [first, second] =>
      match task.contents? first, task.contents? second with
      | none, none => .complaining task 2
          (task.missingOf "diff" first ++ "\n" ++ task.missingOf "diff" second)
      | none, _ => .complaining task 2 (task.missingOf "diff" first)
      | _, none => .complaining task 2 (task.missingOf "diff" second)
      | some s, some t =>
        let left := if Task.readsInput paths then [] else task.input
        let (old, new) := (linesOf s, linesOf t)
        let found := changes (old.map seen) (new.map seen)
        if found.isEmpty then
          let text := if has 's' then s!"Files {first} and {second} are identical\n" else ""
          ⟨text.toList, [], 0, left⟩
        else if has 'q' then ⟨s!"Files {first} and {second} differ\n".toList, [], 1, left⟩
        else if has 'e' then ⟨found.reverse.flatMap (editorChange new), [], 1, left⟩
        else if has 'n' then ⟨found.flatMap (countedChange new), [], 1, left⟩
        else if options.any fun (letter, _) => letter ∈ ['u', 'U', 'c', 'C'] then
          let context := ((lastOption? options ['U', 'C', '#']).bind (natural? ·.2)).getD 3
          let unified := has 'u' || has 'U'
          let title (mark path : String) : String :=
            s!"{mark} {path}\t1970-01-01 00:00:00.000000000 +0000\n"
          let titles := if unified then title "---" first ++ title "+++" second
            else title "***" first ++ title "---" second
          let groups := groupsOfChanges (2 * context) found
          let shown := if unified then unifiedGroup else contextGroup
          ⟨titles.toList ++ groups.flatMap (shown context old new), [], 1, left⟩
        else ⟨found.flatMap (plainChange old new), [], 1, left⟩

end Shell

end TreeOutline
