import TreeOutline.Shell.Tool.Letters
import TreeOutline.Shell.Tool.Order

namespace TreeOutline

/-!
# Tools that bring sorted lines together

* `Shell.comm` — the lines that only one of two files has, and those that both have; both files can
  be read off `Shell.merged` (`Shell.filter_merged_first`, `Shell.filter_merged_second`), and sorted
  files lead to sorted lines (`Shell.areSorted_merged`).
* `Shell.join` — the lines of two files that have a field in common, as one
  (`Shell.key_eq_of_mem_joinPairs`).
* `Shell.tsort` — names in an order that keeps pairs of them.
-/

namespace Shell

/-! ### Lines of two files -/

/-- Where a line has been found. -/
inductive Found where
  | first
  | second
  | both
deriving DecidableEq, Repr

/-- Lines of two sorted files with where they have been found. -/
def merged : List (List Char) → List (List Char) → List (Found × List Char)
  | [], second => second.map fun line => (.second, line)
  | first, [] => first.map fun line => (.first, line)
  | a :: s, b :: t =>
    if a = b then (.both, a) :: merged s t
    else if charsLe a b then (.first, a) :: merged s (b :: t)
    else (.second, b) :: merged (a :: s) t
termination_by s t => s.length + t.length

/-- **Nothing is lost between two files**: the lines of the first one, alone or with the second,
are the first one. -/
theorem filter_merged_first (s t : List (List Char)) :
    ((merged s t).filter (·.1 ≠ .second)).map (·.2) = s := by
  fun_induction merged s t with
  | case1 second => simp [List.filter_map, Function.comp_def]
  | case2 first hfirst => simp [List.filter_map, Function.comp_def]
  | case3 a s t ih => simpa using ih
  | case4 a s b t hne hle ih => simpa using ih
  | case5 a s b t hne hgt ih => simpa using ih

/-- The same of the second one. -/
theorem filter_merged_second (s t : List (List Char)) :
    ((merged s t).filter (·.1 ≠ .first)).map (·.2) = t := by
  fun_induction merged s t with
  | case1 second => simp [List.filter_map, Function.comp_def]
  | case2 first hfirst => simp [List.filter_map, Function.comp_def]
  | case3 a s t ih => simpa using ih
  | case4 a s b t hne hle ih => simpa using ih
  | case5 a s b t hne hgt ih => simpa using ih

/-- The lines of two files are the lines of either of them. -/
theorem mem_merged_iff {line : List Char} {s t : List (List Char)} :
    line ∈ (merged s t).map (·.2) ↔ line ∈ s ∨ line ∈ t := by
  fun_induction merged s t with
  | case1 second => simp [Function.comp_def]
  | case2 first hfirst => simp [Function.comp_def]
  | case3 a s t ih => grind
  | case4 a s b t hne hle ih => grind
  | case5 a s b t hne hgt ih => grind

/-- Whether each line comes before the next one or equals it. -/
def areSorted : List (List Char) → Bool
  | a :: b :: rest => charsLe a b && areSorted (b :: rest)
  | _ => true

/-- **Lines are sorted** exactly when each of them comes before all that follow. -/
theorem areSorted_iff {lines : List (List Char)} :
    areSorted lines = true ↔ lines.Pairwise fun a b => charsLe a b = true := by
  induction lines with
  | nil => simp [areSorted]
  | cons a rest ih =>
    cases rest with
    | nil => simp [areSorted]
    | cons b rest =>
      rw [areSorted, Bool.and_eq_true, ih, List.pairwise_cons (a := a)]
      refine and_congr_left fun hrest => ⟨fun hab c hc => ?_, fun hall => hall b List.mem_cons_self⟩
      rcases List.mem_cons.1 hc with rfl | hc
      · exact hab
      · exact charsLe_trans hab ((List.pairwise_cons.1 hrest).1 c hc)

/-- **Sorted files lead to sorted lines**: the first line of either file is in front of all that
are left. -/
theorem areSorted_merged {s t : List (List Char)} (hs : areSorted s = true)
    (ht : areSorted t = true) : areSorted ((merged s t).map (·.2)) = true := by
  rw [areSorted_iff] at hs ht ⊢
  fun_induction merged s t with
  | case1 second => simpa [Function.comp_def] using ht
  | case2 first hfirst => simpa [Function.comp_def] using hs
  | case3 a s t ih =>
    rw [List.pairwise_cons] at hs ht
    refine List.pairwise_cons.2 ⟨fun line hline => ?_, ih hs.2 ht.2⟩
    exact (mem_merged_iff.1 hline).elim (hs.1 line) (ht.1 line)
  | case4 a s b t hne hle ih =>
    rw [List.pairwise_cons] at hs
    refine List.pairwise_cons.2 ⟨fun line hline => ?_, ih hs.2 ht⟩
    rcases mem_merged_iff.1 hline with hline | hline
    · exact hs.1 line hline
    · rcases List.mem_cons.1 hline with rfl | hline
      · exact hle
      · exact charsLe_trans hle ((List.pairwise_cons.1 ht).1 line hline)
  | case5 a s b t hne hgt ih =>
    rw [List.pairwise_cons] at ht
    refine List.pairwise_cons.2 ⟨fun line hline => ?_, ih hs ht.2⟩
    have hba : charsLe b a = true := by simpa [hgt] using charsLe_total a b
    rcases mem_merged_iff.1 hline with hline | hline
    · rcases List.mem_cons.1 hline with rfl | hline
      · exact hba
      · exact charsLe_trans hba ((List.pairwise_cons.1 hs).1 line hline)
    · exact ht.1 line hline

/-- The two files that a tool is given, or what is wrong with its words. -/
def twoFiles (task : Task) (tool : String) (paths : List String)
    (use : List Char → List Char → Report) : Report :=
  match paths with
  | [] => .misused task tool 1 "missing operand"
  | [path] => .misused task tool 1 s!"missing operand after '{path}'"
  | [first, second] =>
    match task.contents? first, task.contents? second with
    | none, _ => .complaining task 1 (task.missingOf tool first)
    | _, none => .complaining task 1 (task.missingOf tool second)
    | some s, some t => use s t
  | _ :: _ :: third :: _ => .misused task tool 1 s!"extra operand '{third}'"

/-- Shows lines in three columns: those of the first file alone, those of the second one alone, and
those of both.  `-1`, `-2` and `-3` leave columns out. -/
def comm (task : Task) : Report :=
  let table : OptionTable := ⟨"123zctn", "o", [("total", 't'), ("check-order", 'c'),
    ("nocheck-order", 'n'), ("output-delimiter", 'o'), ("zero-terminated", 'z')]⟩
  task.withOptions "comm" 1 table fun options paths =>
    twoFiles task "comm" paths fun s t =>
      let (first, second) := (plainLines s, plainLines t)
      let has := hasOption options
      let tab := ((optionValue? options 'o').getD "\t").toList
      let lines := merged first second
      let shown := lines.flatMap fun (found, line) =>
        let (hidden, columns) : Bool × Nat := match found with
          | .first => (has '1', 0)
          | .second => (has '2', if has '1' then 0 else 1)
          | .both => (has '3', (if has '1' then 0 else 1) + if has '2' then 0 else 1)
        if hidden then []
        else (List.replicate columns tab).flatten ++ line ++ ['\n']
      let count (found : Found) : List Char := (toString (lines.countP (·.1 = found))).toList
      let total := if ¬ has 't' then [] else
        count .first ++ tab ++ count .second ++ tab ++ count .both ++ tab ++ "total\n".toList
      let unpaired := lines.any fun (found, _) => found ≠ .both
      let wrong (number : Nat) (lines : List (List Char)) : List Char :=
        if areSorted lines ∨ ¬ unpaired ∨ has 'n' then []
        else s!"comm: file {number} is not in sorted order\n".toList
      let complaints := wrong 1 first ++ wrong 2 second
      let complaints := if complaints.isEmpty then []
        else complaints ++ "comm: input is not in sorted order\n".toList
      ⟨shown ++ total, complaints, if complaints.isEmpty then 0 else 1,
        if Task.readsInput paths then [] else task.input⟩

/-! ### Lines with a field in common -/

/-- A line by its fields, with the one that is compared. -/
structure JoinLine where
  key : List Char
  fields : List (List Char)

/-- The fields of a line, between blanks or a separator. -/
def joinFields (separator : Option Char) (line : List Char) : List (List Char) :=
  match separator with
  | some c => splitAtChar c line
  | none => (splitAtChar ' ' (line.map fun c => if c = '\t' then ' ' else c)).filter (· ≠ [])

/-- Lines that have the same key as the first one, and the others behind them. -/
def sameKey (lines : List JoinLine) : List JoinLine × List JoinLine :=
  match lines with
  | [] => ([], [])
  | first :: _ => (lines.takeWhile (·.key = first.key), lines.dropWhile (·.key = first.key))

/-- Lines of a file that stand in a row under one key have it in common. -/
theorem key_of_mem_sameKey {line : JoinLine} {first : JoinLine} {lines : List JoinLine}
    (hline : line ∈ (sameKey (first :: lines)).1) : line.key = first.key := by
  simpa using List.all_eq_true.1 List.all_takeWhile line hline

/-- Pairs of lines with the same key, and lines that have no partner. -/
def joinPairs : (fuel : Nat) → List JoinLine → List JoinLine →
    List (Option JoinLine × Option JoinLine)
  | 0, _, _ => []
  | fuel + 1, first, second =>
    match first, second with
    | [], second => second.map fun line => (none, some line)
    | first, [] => first.map fun line => (some line, none)
    | a :: s, b :: t =>
      if a.key = b.key then
        let (left, s) := sameKey (a :: s)
        let (right, t) := sameKey (b :: t)
        (left.flatMap fun a => right.map fun b => (some a, some b)) ++ joinPairs fuel s t
      else if charsLe a.key b.key then (some a, none) :: joinPairs fuel s (b :: t)
      else (none, some b) :: joinPairs fuel (a :: s) t

/-- **Only lines with the same key are joined.** -/
theorem key_eq_of_mem_joinPairs {fuel : Nat} {first second : List JoinLine} {a b : JoinLine}
    (hpair : (some a, some b) ∈ joinPairs fuel first second) : a.key = b.key := by
  fun_induction joinPairs fuel first second with
  | case1 => simp at hpair
  | case2 => simp at hpair
  | case3 => simp at hpair
  | case4 fuel a' s b' t hkey left s' hleft right t' hright ih =>
    rcases List.mem_append.1 hpair with hpair | hpair
    · simp only [List.mem_flatMap, List.mem_map, Prod.mk.injEq, Option.some.injEq] at hpair
      obtain ⟨_, ha, _, hb, rfl, rfl⟩ := hpair
      have ha := key_of_mem_sameKey (by rw [hleft]; exact ha)
      have hb := key_of_mem_sameKey (by rw [hright]; exact hb)
      rw [ha, hb, hkey]
    · exact ih hpair
  | case5 _ _ _ _ _ _ _ ih => exact ih (by simpa using hpair)
  | case6 _ _ _ _ _ _ _ ih => exact ih (by simpa using hpair)

/-- The number of the first line whose key should be in front of the line before it, the second one
having the number given. -/
def firstDisorder? : (number : Nat) → List JoinLine → Option Nat
  | number, a :: b :: rest =>
    if charsLe a.key b.key then firstDisorder? (number + 1) (b :: rest) else some number
  | _, _ => none

/-- **A line out of order is found** exactly where the keys are not in order. -/
theorem firstDisorder?_eq_none_iff {number : Nat} {lines : List JoinLine} :
    firstDisorder? number lines = none ↔ areSorted (lines.map (·.key)) = true := by
  induction lines generalizing number with
  | nil => simp [firstDisorder?, areSorted]
  | cons a rest ih =>
    cases rest with
    | nil => simp [firstDisorder?, areSorted]
    | cons b rest =>
      have ih : firstDisorder? (number + 1) (b :: rest) = none ↔
          areSorted ((b :: rest).map (·.key)) = true := ih
      by_cases hle : charsLe a.key b.key = true
      · simpa [firstDisorder?, areSorted, hle] using ih
      · simp [firstDisorder?, areSorted, hle]

/-- Joins lines of two files on a field that `-1`, `-2` and `-j` number and `-t` separates.  `-a`
adds lines without a partner, `-v` shows these alone; `-o` chooses fields, `-e` stands for those
that are missing, and `-i` ignores case.  If there are lines without a partner, the files must be
in order. -/
def join (task : Task) : Report :=
  let table : OptionTable := ⟨"izNC", "12jtavoe", [("ignore-case", 'i'),
    ("nocheck-order", 'N'), ("check-order", 'C')]⟩
  task.withOptions "join" 1 table fun options paths =>
    twoFiles task "join" paths fun s t =>
      let separator := (optionValue? options 't').bind (·.toList.head?)
      let number (letter : Char) : Nat :=
        (((lastOption? options [letter, 'j']).map (·.2)).bind natural?).getD 1
      let fold (key : List Char) : List Char :=
        if hasOption options 'i' then key.map Char.toLower else key
      let read (letter : Char) (text : List Char) : List JoinLine :=
        (plainLines text).map fun line =>
          let fields := joinFields separator line
          ⟨fold (fields.getD (number letter - 1) []), fields⟩
      let (first, second) := (read '1' s, read '2' t)
      let given (letter : Char) (value : String) : Bool := options.contains (letter, value)
      let alone := given 'v' "1" || given 'v' "2"
      let empty := ((optionValue? options 'e').getD "").toList
      let joint := [separator.getD ' ']
      let others (line : JoinLine) (n : Nat) : List (List Char) :=
        (line.fields.zipIdx.filter fun (_, i) => i + 1 ≠ n).map (·.1)
      let fieldOf (line : Option JoinLine) (n : Nat) : List Char :=
        match line.bind fun line => line.fields[n - 1]? with
        | some [] | none => empty
        | some field => field
      let keyOf (line : JoinLine) (n : Nat) : List Char := line.fields.getD (n - 1) []
      let row (a b : Option JoinLine) : List Char :=
        let key := match a, b with
          | some a, _ => keyOf a (number '1')
          | none, some b => keyOf b (number '2')
          | none, none => []
        let fields := match optionValue? options 'o' with
          | some list =>
            let parts := (list.splitOn ",").flatMap (·.splitOn " ")
            parts.map fun part =>
              match part.splitOn "." with
              | ["1", n] => fieldOf a ((natural? n).getD 1)
              | ["2", n] => fieldOf b ((natural? n).getD 1)
              | _ => key
          | none => key :: (a.elim [] fun a => others a (number '1')) ++
              b.elim [] fun b => others b (number '2')
        joint.intercalate fields ++ ['\n']
      let pairs := joinPairs (first.length + second.length + 1) first second
      let shown := pairs.flatMap fun
        | (some a, some b) => if alone then [] else row (some a) (some b)
        | (some a, none) => if given 'a' "1" || given 'v' "1" then row (some a) none else []
        | (none, some b) => if given 'a' "2" || given 'v' "2" then row none (some b) else []
        | (none, none) => []
      let left := if Task.readsInput paths then [] else task.input
      let checked := !hasOption options 'N' &&
        (hasOption options 'C' || pairs.any fun (a, b) => a.isNone || b.isNone)
      let disorders := [(paths.headD "-", first, s), ((paths[1]?).getD "-", second, t)].filterMap
        fun (path, lines, text) =>
          (firstDisorder? 2 lines).map fun n =>
            let line := String.ofList ((plainLines text).getD (n - 1) [])
            s!"join: {path}:{n}: is not sorted: {line}\n"
      if ¬ checked ∨ disorders.isEmpty then ⟨shown, [], 0, left⟩
      else if hasOption options 'C' then ⟨[], (disorders.headD "").toList, 1, left⟩
      else
        let complaint := "".intercalate disorders ++ "join: input is not in sorted order\n"
        ⟨shown, complaint.toList, 1, left⟩

/-! ### Names in order -/

/-- Names and the pairs in which the first one comes before the second one. -/
def pairsOfNames : List String → List (String × String)
  | a :: b :: rest => (a, b) :: pairsOfNames rest
  | _ => []

/-- Takes names that nothing has to come before, those first that have waited longest. -/
def takeInOrder : (fuel : Nat) → (waiting : List String) → (pairs : List (String × String)) →
    List String
  | 0, _, _ => []
  | fuel + 1, waiting, pairs =>
    match waiting with
    | [] => []
    | name :: waiting =>
      let (own, others) := pairs.partition (·.1 = name)
      let freed := (own.map (·.2)).reverse.filter fun next =>
        !others.any fun (_, second) => second = next
      name :: takeInOrder fuel (waiting ++ freed.eraseDups) others

/-- Names so that of each pair the first one comes before the second one. -/
def tsort (task : Task) : Report :=
  let path := task.words.headD "-"
  match task.contents? path with
  | none => .complaining task 1 (task.missingOf "tsort" path)
  | some text =>
    let blanks := text.map fun c => if isSpaceByte c then ' ' else c
    let names := ((splitAtChar ' ' blanks).filter (· ≠ [])).map String.ofList
    if names.length % 2 = 1 then
      .complaining task 1 s!"tsort: {path}: input contains an odd number of tokens"
    else
      let pairs := (pairsOfNames names).filter fun (a, b) => a ≠ b
      let pairs := pairs.eraseDups
      let ordered := names.eraseDups.mergeSort fun a b => !decide (b < a)
      let free := ordered.filter fun name => !pairs.any fun (_, second) => second = name
      let taken := takeInOrder (ordered.length + 1) free pairs
      let report := Report.printing (joinLines (taken.map String.toList))
      if taken.length = ordered.length then report
      else { report with status := 1
                         complaint := s!"tsort: {path}: input contains a loop:\n".toList }

end Shell

end TreeOutline
