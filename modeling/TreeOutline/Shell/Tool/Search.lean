import TreeOutline.Shell.Pattern

namespace TreeOutline

/-!
# Finding lines

* `Shell.Finder` — what is looked for in lines; `Finder.holds` and `Finder.matches'` find it.  What
  is found stands where it is said to be (`Finder.prefix_of_mem_matchesFrom`).
* `Shell.Finding` — how the lines that are found are shown.
* `Shell.grep` — the lines of files in which a pattern is found.
* `Shell.grepWith` — the same with an option in front.
-/

namespace Shell

/-! ### Finding -/

/-- What is looked for: patterns, whatever the case of letters or not, as whole words or lines, and
whether the lines without any of it are meant. -/
structure Finder where
  patterns : List Pattern
  ignoreCase : Bool
  words : Bool
  whole : Bool
  inverted : Bool

namespace Finder

/-- Whether a match is a whole word. -/
def isWord (first finish : Place) : Bool :=
  !first.before.head?.any Place.isWordByte && !finish.rest.head?.any Place.isWordByte

/-- The longest match of a pattern at a place that counts. -/
def matchAt? (f : Finder) (place : Place) (pattern : Pattern) : Option Place :=
  let all := (pattern.places (caseFold f.ignoreCase) { place with groups := [] }).filter
    fun finish =>
      if f.whole then place.before.isEmpty && finish.rest.isEmpty
      else !f.words || isWord place finish
  Place.furthest? all

/-- The longest match of all patterns at a place. -/
def best? (f : Finder) (place : Place) : Option Place :=
  Place.furthest? (f.patterns.filterMap (f.matchAt? place))

/-- A match lies in the text in which it is looked for. -/
theorem reaches_of_best? {f : Finder} {place finish : Place} (h : f.best? place = some finish) :
    place.Reaches finish := by
  obtain ⟨pattern, -, hmatch⟩ := List.mem_filterMap.1 (Place.furthest?_eq_some h).1
  have hplaces := (List.mem_filter.1 (Place.furthest?_eq_some hmatch).1).1
  have hreaches := Pattern.reaches_of_mem_places hplaces
  exact ⟨hreaches.text_eq, hreaches.suffix⟩

/-- Whether anything is found at a place or behind it. -/
def isFound (f : Finder) : (fuel : Nat) → Place → Bool
  | 0, _ => false
  | fuel + 1, place =>
    (f.patterns.any fun pattern => (f.matchAt? place pattern).isSome) ||
      (!place.rest.isEmpty && f.isFound fuel place.next)

/-- Whether a line is one of those that are looked for. -/
def holds (f : Finder) (line : List Char) : Bool :=
  f.isFound (line.length + 1) ⟨[], line, []⟩ != f.inverted

/-- The matches in a line that are not empty, from left to right, each with its position. -/
def matchesFrom (f : Finder) : (fuel : Nat) → Place → List (Nat × List Char)
  | 0, _ => []
  | fuel + 1, place =>
    match f.best? place with
    | some finish =>
      let text := finish.since place
      if ¬ text.isEmpty then (place.before.length, text) :: f.matchesFrom fuel finish
      else if place.rest.isEmpty then []
      else f.matchesFrom fuel place.next
    | none => if place.rest.isEmpty then [] else f.matchesFrom fuel place.next

/-- **Matches** are not empty, and stand in the text at the positions that are told. -/
theorem prefix_of_mem_matchesFrom {f : Finder} {fuel : Nat} {place : Place} {i : Nat}
    {found : List Char} (h : (i, found) ∈ f.matchesFrom fuel place) :
    found ≠ [] ∧ place.before.length ≤ i ∧ found <+: place.text.drop i := by
  induction fuel generalizing place with
  | zero => exact absurd h List.not_mem_nil
  | succ fuel ih =>
    have hnext (finish : Place) (hreaches : place.Reaches finish)
        (h : (i, found) ∈ f.matchesFrom fuel finish) :
        found ≠ [] ∧ place.before.length ≤ i ∧ found <+: place.text.drop i := by
      obtain ⟨hne, hle, hprefix⟩ := ih h
      refine ⟨hne, Nat.le_trans hreaches.length_before_le hle, ?_⟩
      rwa [hreaches.text_eq] at hprefix
    have hstep := place.reaches_skip (firstLetter place.rest).length
    rw [matchesFrom] at h
    split at h
    next finish hfinish =>
      have hreaches := f.reaches_of_best? hfinish
      dsimp only at h
      split at h
      next hfull =>
        rcases List.mem_cons.1 h with heq | h
        · cases heq
          refine ⟨by simpa using hfull, Nat.le_refl _, finish.rest, ?_⟩
          rw [hreaches.since_append, Place.text, List.drop_left' (by simp)]
        · exact hnext finish hreaches h
      next =>
        split at h
        · exact absurd h List.not_mem_nil
        · exact hnext _ hstep h
    next =>
      split at h
      · exact absurd h List.not_mem_nil
      · exact hnext _ hstep h

/-- The matches in a line. -/
def matches' (f : Finder) (line : List Char) : List (Nat × List Char) :=
  f.matchesFrom (line.length + 1) ⟨[], line, []⟩

end Finder

/-! ### Showing what is found -/

/-- How lines are shown: under the names of files or not, with their numbers and positions, only
what matches, in colours, and with how many lines around them. -/
structure Finding where
  named : Bool
  numbered : Bool
  placed : Bool
  onlyMatches : Bool
  coloured : Bool
  before : Nat
  after : Nat
  /-- What stands between lines some of which are left out, if anything does. -/
  apart : Option (List Char)
  /-- The mark at the end of lines. -/
  mark : Char

namespace Finding

/-- A text in a colour, if there are to be colours. -/
def paint (s : Finding) (colour : String) (text : List Char) : List Char :=
  let escape (tail : String) : List Char := '\x1b' :: '[' :: tail.toList
  if s.coloured ∧ ¬ text.isEmpty then
    escape (colour ++ "m") ++ escape "K" ++ text ++ escape "m" ++ escape "K"
  else text

/-- What stands in front of a line or a match. -/
def front (s : Finding) (name : String) (mark : Char) (number position : Nat) : List Char :=
  let part (colour : String) (text : String) : List Char :=
    s.paint colour text.toList ++ s.paint "36" [mark]
  (if s.named then part "35" name else []) ++
    (if s.numbered then part "32" (toString number) else []) ++
    (if s.placed then part "32" (toString position) else [])

/-- A line with its matches in colours. -/
def painted (s : Finding) (found : List (Nat × List Char)) (line : List Char) : List Char :=
  let (shown, place) := found.foldl (fun ((shown, place) : List Char × Nat) (start, text) =>
    (shown ++ (line.take start).drop place ++ s.paint "01;31" text, start + text.length)) ([], 0)
  shown ++ line.drop place

/-- The lines that are shown: those that are chosen, which are marked, and those around them, with
`none` where some are left out. -/
def withContext {α : Type} (s : Finding) (lines : List (α × Bool)) : List (Option (α × Bool)) :=
  let places := lines.zipIdx.filterMap fun ((_, chosen), i) => if chosen then some i else none
  let near (i : Nat) : Bool := places.any fun j => i ≤ j + s.after && j ≤ i + s.before
  let kept := lines.zipIdx.filter fun (_, i) => near i
  (kept.foldl (fun (shown, last) (line, i) =>
    let gap := last.any fun (j : Nat) => j + 1 < i
    let between := if gap ∧ s.apart.isSome then [none] else []
    (some line :: between ++ shown, some i)) ([], none)).1.reverse

end Finding

/-- A number of lines around others, or the fault of one that cannot be used. -/
def contextCount (options : List (Char × String)) (letters : List Char) :
    Except String (Option Nat) :=
  match lastOption? options letters with
  | none => .ok none
  | some (_, text) =>
    match natural? text with
    | some n => .ok (some n)
    | none => .error s!"grep: {text}: invalid context length argument"

/-- A pattern in a richer notation in the extended one: a letter for digits, and groups that are not
numbered. -/
def extendedNotation : List Char → List Char
  | '\\' :: 'd' :: rest => "[0-9]".toList ++ extendedNotation rest
  | '\\' :: 'D' :: rest => "[^0-9]".toList ++ extendedNotation rest
  | '\\' :: c :: rest => '\\' :: c :: extendedNotation rest
  | '(' :: '?' :: ':' :: rest => '(' :: extendedNotation rest
  | c :: rest => c :: extendedNotation rest
  | [] => []

/-- The options of the tool. -/
def grepTable : OptionTable :=
  ⟨"vicnqowxEFGPhHslLabyrRzIUTZNK", "emABCfDdX#S", [("count", 'c'), ("invert-match", 'v'),
    ("ignore-case", 'i'), ("line-number", 'n'), ("quiet", 'q'), ("silent", 'q'),
    ("only-matching", 'o'), ("extended-regexp", 'E'), ("fixed-strings", 'F'),
    ("basic-regexp", 'G'), ("perl-regexp", 'P'), ("word-regexp", 'w'), ("line-regexp", 'x'),
    ("max-count", 'm'), ("regexp", 'e'), ("file", 'f'), ("files-with-matches", 'l'),
    ("files-without-match", 'L'), ("no-filename", 'h'), ("with-filename", 'H'),
    ("no-messages", 's'), ("byte-offset", 'b'), ("after-context", 'A'), ("before-context", 'B'),
    ("context", 'C'), ("null-data", 'z'), ("text", 'a'), ("recursive", 'r'), ("null", 'Z'),
    ("initial-tab", 'T'), ("line-buffered", 'U'), ("binary", 'U'), ("color", 'K'),
    ("colour", 'K'), ("no-group-separator", 'N'), ("group-separator", 'S'), ("label", 'X')]⟩

/-- The lines in which one of some patterns is found: `-v` the others, `-c` their number, `-n` and
`-b` with their numbers and positions, `-o` only what is found, `-q` nothing at all, `-l` and `-L`
the names of files with and without any, `-h` and `-H` without and with the names of files, `-A`,
`-B` and `-C` with lines around them.  `-E` and `-F` choose how patterns are written, `-i` ignores
case, `-w` and `-x` ask for whole words and lines. -/
def grep (task : Task) : Report :=
  let usage : String :=
    "Usage: grep [OPTION]... PATTERNS [FILE]...\nTry 'grep --help' for more information."
  match task.options grepTable with
  | .error fault => .complaining task 2 s!"grep: {fault.message}\n{usage}"
  | .ok (options, words) =>
    let has := hasOption options
    -- four notations, of which one takes the pattern as it is
    let read (text : String) : Except PatternFault Pattern :=
      if has 'F' then .ok (.literal text.toList)
      else Pattern.read (if has 'E' || has 'P' then .lenient else .basic)
        (if has 'P' then extendedNotation text.toList else text.toList)
    let work : Except String Report := do
      let after ← contextCount options ['A', 'C', '#']
      let before ← contextCount options ['B', 'C', '#']
      let most ← match optionValue? options 'm' with
        | none => .ok none
        | some text =>
          match natural? text with
          | some n => .ok (some n)
          | none => .error "grep: invalid max count"
      let given ← (options.filter fun (c, _) => c = 'e' ∨ c = 'f').mapM fun (letter, value) =>
        if letter = 'e' then .ok (value.splitOn "\n")
        else
          match task.contents? value with
          | some text => .ok ((plainLines text).map String.ofList)
          | none => .error (task.missingOf "grep" value)
      let isGiven := has 'e' || has 'f'
      let (texts, paths) ← match isGiven, words with
        | false, pattern :: paths => .ok (pattern.splitOn "\n", paths)
        | false, [] => .error usage
        | true, paths => .ok (given.flatten, paths)
      let patterns ← match texts.mapM read with
        | .ok patterns => .ok patterns
        | .error fault => .error ("grep: " ++ (if fault = .unmatchedBracket ∧ texts = ["["] then
            "Invalid regular expression" else fault.message))
      let (found, complaint) := task.sources paths (Task.missing "grep")
      let finder : Finder :=
        ⟨patterns, (has 'i' || has 'y'), has 'w', has 'x', has 'v'⟩
      let separator := (optionValue? options 'S').getD "--"
      let shows : Finding :=
        { named := (1 < paths.length || has 'H') && !has 'h'
          numbered := has 'n'
          placed := has 'b'
          onlyMatches := has 'o'
          coloured := optionValue? options 'K' == some "always"
          before := if has 'o' then 0 else before.getD 0
          after := if has 'o' then 0 else after.getD 0
          apart := if has 'N' ∨ (before.isNone ∧ after.isNone) then none
            else some separator.toList
          mark := if has 'z' then '\x00' else '\n' }
      let report (path : String) (text : List Char) : List Char × List Char × Bool :=
        let name := if path = "-" then (optionValue? options 'X').getD "(standard input)" else path
        let records := recordsOf shows.mark text
        let nothing : List ((List Char × Nat) × Bool) × Nat × Nat := ([], 0, 0)
        -- with each line its place in the text, and whether it is one of the lines asked for
        let lines := (records.foldl (fun (rows, position, taken) record =>
          let line := record.takeWhile (· ≠ shows.mark)
          let chosen : Bool := most.all (taken < ·) && finder.holds line
          (((line, position), chosen) :: rows, position + record.length,
            if chosen then taken + 1 else taken)) nothing).1.reverse
        let count := (lines.filter (·.2)).length
        let chosen := 0 < count
        let row (number : Nat) (line : List Char) (position : Nat) (isChosen : Bool) :
            List Char :=
          let mark := if isChosen then ':' else '-'
          if shows.onlyMatches then
            if has 'v' then []
            else (finder.matches' line).flatMap fun (i, text) =>
              shows.front name mark number (position + i) ++ shows.paint "01;31" text ++
                [shows.mark]
          else
            let line := if shows.coloured ∧ isChosen ≠ has 'v' then
              shows.painted (finder.matches' line) line else line
            shows.front name mark number position ++ line ++ [shows.mark]
        let shown :=
          if has 'q' then []
          else if has 'l' ∨ has 'L' then
            if chosen = has 'L' then []
            else shows.paint "35" name.toList ++ [if has 'Z' then '\x00' else '\n']
          else if has 'c' then
            (if shows.named then shows.paint "35" name.toList ++ shows.paint "36" [':'] else []) ++
              s!"{count}\n".toList
          else
            let rows := lines.zipIdx.map fun (((line, position), isChosen), i) =>
              ((i + 1, line, position), isChosen)
            (shows.withContext rows).flatMap fun
              | none => shows.paint "36" (shows.apart.getD []) ++ ['\n']
              | some ((number, line, position), isChosen) => row number line position isChosen
        let plain := has 'a' || has 'z' || has 'c' || has 'l' || has 'L' || has 'q'
        -- lines of a binary file are not shown, only that there are some
        if ¬ plain ∧ chosen ∧ text.contains '\x00' then
          ([], s!"grep: {name}: binary file matches\n".toList, chosen)
        else (shown, [], chosen)
      let reports := found.map fun (path, text) => report path text
      let status :=
        if reports.any (·.2.2) ∧ (complaint.isEmpty ∨ has 'q') then 0
        else if complaint.isEmpty then 1 else 2
      let notes := reports.flatMap (·.2.1)
      let blocks := (reports.map (·.1)).filter (!·.isEmpty)
      let between := match shows.apart with
        | some text =>
          if has 'c' ∨ has 'l' ∨ has 'L' then [] else shows.paint "36" text ++ ['\n']
        | none => []
      .ok ⟨between.intercalate blocks, (if has 's' then [] else complaint) ++ notes, status,
        if Task.readsInput paths then [] else task.input⟩
    match work with
    | .ok report => report
    | .error text => .complaining task 2 text

/-- The same with the notation chosen beforehand. -/
def grepWith (option : String) (task : Task) : Report :=
  grep { task with words := option :: task.words }

end Shell

end TreeOutline
