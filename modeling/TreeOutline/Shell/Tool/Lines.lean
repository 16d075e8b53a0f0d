import TreeOutline.Shell.Tool.Basic

namespace TreeOutline

/-!
# Tools that work on lines

* `Shell.cat` — whole files.
* `Shell.rev` — lines from their end.
* `Shell.wc` — how much there is; a blank parts words (`Shell.wordCount_append_blank`).
* `Shell.paste` — lines side by side: a row has what stands at its place in each column
  (`Shell.getElem?_rowsOf`).
-/

namespace Shell

/-! ### Whole files -/

/-- A byte in a form that can be seen: a caret in front of what controls, and `M-` in front of what
is no ASCII. -/
def visible (c : Char) : List Char :=
  let low (n : Nat) : List Char :=
    if n < 32 then ['^', Char.ofNat (n + 64)] else if n = 127 then ['^', '?'] else [Char.ofNat n]
  if c.toNat < 128 then low c.toNat else 'M' :: '-' :: low (c.toNat - 128)

/-- Joins files: `-n` numbers the lines and `-b` those that are not empty, `-s` leaves out empty
lines behind another one, `-E`, `-T` and `-v` show ends, tabs and other characters. -/
def cat (task : Task) : Report :=
  let table : OptionTable := ⟨"nbsETvAetu", "", [("number", 'n'), ("number-nonblank", 'b'),
    ("squeeze-blank", 's'), ("show-ends", 'E'), ("show-tabs", 'T'), ("show-all", 'A')]⟩
  task.withOptions "cat" 1 table fun options paths =>
    let has (letters : List Char) : Bool := letters.any (hasOption options)
    let shown (line : List Char) : List Char :=
      let body := (withoutEnd line).flatMap fun c =>
        if c = '\t' then (if has ['T', 'A', 't'] then ['^', 'I'] else [c])
        else if has ['v', 'A', 'e', 't'] then visible c else [c]
      body ++ (if has ['E', 'A', 'e'] ∧ line.contains '\n' then ['$'] else []) ++ endOf line
    let squeezed (lines : List (List Char)) : List (List Char) :=
      if ¬ has ['s'] then lines
      else (lines.foldl (fun (kept : List (List Char)) line =>
        if line = ['\n'] ∧ kept.head? = some ['\n'] then kept else line :: kept) []).reverse
    let numbered (lines : List (List Char)) : List Char :=
      (lines.foldl (fun (text, n) line =>
        if has ['b'] ∧ line = ['\n'] then (text ++ shown line, n)
        else if has ['n', 'b'] then (text ++ padNumber 6 n ++ '\t' :: shown line, n + 1)
        else (text ++ shown line, n)) ([], 1)).1
    task.throughAll paths (Task.missing "cat") 1 fun text =>
      if options.all (·.1 = 'u') then text else numbered (squeezed (linesOf text))

/-- The characters of each line from the last to the first. -/
def rev (task : Task) : Report :=
  let complaint (path : String) (fault : StoreFault) : String :=
    s!"rev: cannot open {path}: {fault.message}"
  task.throughEach task.words complaint fun text =>
    (linesOf text).flatMap fun line => (letters (withoutEnd line)).reverse.flatten ++ endOf line

/-! ### Counting -/

/-- Counts a word where it begins; `true` inside of one. -/
def countWord : Nat × Bool → Char → Nat × Bool
  | (count, inWord), c =>
    if isSpaceByte c then (count, false) else (if inWord then count else count + 1, true)

/-- The number of words. -/
def wordCount (text : List Char) : Nat := (text.foldl countWord (0, false)).1

/-- Words that have been counted before stay counted. -/
theorem foldl_countWord (text : List Char) (count : Nat) (inWord : Bool) :
    (text.foldl countWord (count, inWord)).1 = count + (text.foldl countWord (0, inWord)).1 := by
  induction text generalizing count inWord with
  | nil => rfl
  | cons c text ih =>
    rw [List.foldl_cons, List.foldl_cons, countWord, countWord]
    split
    · exact ih count false
    · split
      · exact ih count true
      · rw [ih (count + 1) true, ih (0 + 1) true]
        omega

/-- **A blank parts words**: those in front of it and those behind it are counted apart. -/
theorem wordCount_append_blank {blank : Char} (hblank : isSpaceByte blank = true)
    (front back : List Char) :
    wordCount (front ++ blank :: back) = wordCount front + wordCount back := by
  rw [wordCount, List.foldl_append, List.foldl_cons]
  conv => lhs; rw [countWord, if_pos hblank]
  exact foldl_countWord back _ false

/-- Letters without a blank are one word. -/
theorem wordCount_word {word : List Char} (hne : word ≠ [])
    (hword : ∀ c ∈ word, isSpaceByte c = false) : wordCount word = 1 := by
  have hinside (text : List Char) (htext : ∀ c ∈ text, isSpaceByte c = false) :
      text.foldl countWord (1, true) = (1, true) := by
    induction text with
    | nil => rfl
    | cons c text ih =>
      rw [List.foldl_cons, countWord, htext c List.mem_cons_self]
      exact ih fun other hother => htext other (List.mem_cons_of_mem c hother)
  cases word with
  | nil => exact absurd rfl hne
  | cons c word =>
    rw [wordCount, List.foldl_cons, countWord, hword c List.mem_cons_self]
    exact congrArg Prod.fst (hinside word fun other hother =>
      hword other (List.mem_cons_of_mem c hother))

/-- Counts lines, words and bytes, in columns that are as wide as the sizes of the files ask for,
and at least seven wide for what is no file. -/
def wc (task : Task) : Report :=
  let table : OptionTable := ⟨"lwcmL", "", [("lines", 'l'), ("words", 'w'), ("bytes", 'c'),
    ("chars", 'm'), ("max-line-length", 'L'), ("total", 'T')]⟩
  task.withOptions "wc" 1 table fun options paths =>
    let asked := ((options.map (·.1)).filter (· ≠ 'T')).eraseDups
    let total? := (optionValue? options 'T').getD "auto"
    let kinds :=
      if asked.isEmpty then ['l', 'w', 'c'] else ['l', 'w', 'm', 'c', 'L'].filter (· ∈ asked)
    let count (text : List Char) : Char → Nat
      | 'l' => text.count '\n'
      | 'w' => wordCount text
      | 'm' => (letters text).length
      | 'L' => (plainLines text).foldl (fun n line => max n (letters line).length) 0
      | _ => text.length
    let (found, complaint) := task.sources paths (Task.missing "wc")
    let readsPipe := Task.readsInput paths && !task.inputIsFile
    let total := (found.filter fun (path, _) => path ≠ "-" ∨ task.inputIsFile).flatMap (·.2)
    let width :=
      if paths.length ≤ 1 ∧ kinds.length = 1 then 1
      else max (toString total.length).length (if readsPipe then 7 else 1)
    let row (counts : List Nat) (name : Option String) : List Char :=
      [' '].intercalate (counts.map (padNumber width) ++ (name.map String.toList).toList)
    let rows := found.map fun (path, text) =>
      row (kinds.map (count text)) (if paths.isEmpty then none else some path)
    let sums := kinds.map fun kind =>
      let counts := found.map fun (_, text) => count text kind
      if kind = 'L' then counts.foldl max 0 else counts.foldl (· + ·) 0
    let plain := [' '].intercalate (sums.map fun n => (toString n).toList)
    let rows :=
      if total? = "only" then [plain]
      else if total? = "always" ∨ (total? = "auto" ∧ 1 < paths.length) then
        rows ++ [row sums (some "total")]
      else rows
    ⟨joinLines rows, complaint, if complaint.isEmpty then 0 else 1,
      if Task.readsInput paths then [] else task.input⟩

/-! ### Side by side -/

/-- The separators of columns, in which a backslash masks a letter. -/
def columnSeparators : List Char → List (List Char)
  | [] => []
  | '\\' :: c :: rest =>
    (match c with
      | 'n' => ['\n']
      | 't' => ['\t']
      | '0' => []
      | c => [c]) :: columnSeparators rest
  | c :: rest => [c] :: columnSeparators rest

/-- Joins texts with separators that take turns. -/
def joinInTurns (separators : List (List Char)) (texts : List (List Char)) : List Char :=
  texts.zipIdx.flatMap fun (text, i) =>
    (if i = 0 then [] else (separators[(i - 1) % separators.length]?).getD []) ++ text

/-- Texts with one separator between them. -/
theorem joinInTurns_singleton (separator : List Char) (texts : List (List Char)) :
    joinInTurns [separator] texts = separator.intercalate texts := by
  cases texts with
  | nil => rfl
  | cons text texts =>
    have hrest (texts : List (List Char)) (i : Nat) :
        (texts.zipIdx (i + 1)).flatMap (fun (text, i) =>
          (if i = 0 then [] else ([separator][(i - 1) % [separator].length]?).getD []) ++ text) =
          texts.flatMap fun text => separator ++ text := by
      induction texts generalizing i with
      | nil => rfl
      | cons text texts ih =>
        rw [List.zipIdx_cons, List.flatMap_cons, List.flatMap_cons, ih]
        simp [Nat.mod_one]
    have hintercalate (text : List Char) (texts : List (List Char)) :
        separator.intercalate (text :: texts) =
          text ++ texts.flatMap fun text => separator ++ text := by
      induction texts generalizing text with
      | nil => simp [List.intercalate]
      | cons next texts ih =>
        rw [List.flatMap_cons, List.append_assoc, ← ih next]
        simp [List.intercalate]
    rw [joinInTurns, List.zipIdx_cons, List.flatMap_cons, hrest, hintercalate]
    rfl

/-- The columns of several lists as rows; a list that has come to its end leaves its place empty. -/
def rowsOf : (fuel : Nat) → List (List (List Char)) → List (List (List Char))
  | 0, _ => []
  | fuel + 1, columns =>
    if columns.all List.isEmpty then []
    else columns.map (·.headD []) :: rowsOf fuel (columns.map (·.drop 1))

/-- **A row** has what stands at its place in each of the columns, or nothing. -/
theorem getElem?_rowsOf {fuel : Nat} {columns : List (List (List Char))} {i : Nat}
    (hi : i < (rowsOf fuel columns).length) :
    (rowsOf fuel columns)[i]? = some (columns.map (·.getD i [])) := by
  induction fuel generalizing columns i with
  | zero => exact absurd hi (Nat.not_lt_zero i)
  | succ fuel ih =>
    rw [rowsOf] at hi ⊢
    split
    next hempty => rw [if_pos hempty] at hi; exact absurd hi (Nat.not_lt_zero i)
    next hmore =>
      rw [if_neg hmore] at hi
      cases i with
      | zero => simp [List.headD_eq_head?_getD, List.head?_eq_getElem?]
      | succ i =>
        rw [List.getElem?_cons_succ, ih (Nat.lt_of_succ_lt_succ hi), List.map_map]
        simp [Function.comp_def]

/-- The lines of files side by side, or with `-s` those of each file in one line. -/
def paste (task : Task) : Report :=
  let table : OptionTable := ⟨"sz", "d", [("serial", 's'), ("delimiters", 'd')]⟩
  task.withOptions "paste" 1 table fun options paths =>
    let separators := columnSeparators ((optionValue? options 'd').getD "\t").toList
    let (found, complaint) := task.sources paths (Task.missing "paste")
    let columns := found.map fun (_, text) => plainLines text
    let rows :=
      if hasOption options 's' then columns
      else
        let inputs := (found.filter (·.1 = "-")).length
        let shared := plainLines task.input
        let columns := if inputs ≤ 1 then columns else
          (found.zipIdx.map fun ((path, text), i) =>
            if path ≠ "-" then plainLines text
            else
              let turn := ((found.take i).filter (·.1 = "-")).length
              (shared.zipIdx.filter fun (_, j) => j % inputs = turn).map (·.1))
        rowsOf (((columns.map List.length).foldl max 0) + 1) columns
    let rows := if complaint.isEmpty ∨ hasOption options 's' then rows else []
    ⟨joinLines (rows.map (joinInTurns separators)), complaint,
      if complaint.isEmpty then 0 else 1, if Task.readsInput paths then [] else task.input⟩

end Shell

end TreeOutline
