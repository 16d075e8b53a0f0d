import TreeOutline.Shell.Tool.Order

namespace TreeOutline

/-!
# Lines in order

* `Shell.SortKey` — a part of lines that is compared, and how; `Shell.readKey` reads one.
* `Shell.SortFault` — why lines cannot be sorted as it is asked for.
* `Shell.sort` — lines in order; sorted by their bytes they depend on nothing but the lines
  (`Shell.mergeSort_charsLe_of_perm`).
* `Shell.uniq` — equal neighbours once; groups leave nothing out (`Shell.flatten_groupsOf`).
-/

namespace Shell

/-- What a part of a line is taken for. -/
inductive Valuation where
  | bytes
  | decimals
  | reals
  | sizes
  | months
  | versions
deriving DecidableEq, Repr

/-- The order of texts under a valuation. -/
def Valuation.order : Valuation → List Char → List Char → Ordering
  | .bytes => compareBytes
  | .decimals => compareDecimals
  | .reals => compareReals
  | .sizes => compareSizes
  | .months => compareMonths
  | .versions => compareVersions

/-- The valuation that a letter asks for; where chance is asked for, bytes decide. -/
def Valuation.ofLetter? : Char → Option Valuation
  | 'n' => some .decimals
  | 'g' => some .reals
  | 'h' => some .sizes
  | 'M' => some .months
  | 'V' => some .versions
  | 'R' => some .bytes
  | _ => none

/-! ### Keys -/

/-- A place in a line: so many fields and then so many letters on. -/
structure FieldPlace where
  fields : Nat
  letters : Nat
  /-- The letters that say how the key is compared, as they stand behind the place. -/
  flags : List Char

/-- A part of lines: from one place up to another one, or their end; and the letters that say how it
is compared. -/
structure SortKey where
  start : FieldPlace
  stop : Option FieldPlace
  flags : List Char

/-- Why lines cannot be sorted as it is asked for. -/
inductive SortFault where
  | badCount (position : String) (text : String)
  | badKey (reason : String) (text : String)
  | incompatible (letters : String)
  | longSeparator (text : String)
  | emptySeparator
  | extraOperand (path : String) (letter : Char)
deriving DecidableEq, Repr

/-- The wording of a fault. -/
def SortFault.message : SortFault → String
  | .badCount position text => s!"invalid number {position}: invalid count at start of '{text}'"
  | .badKey reason text => s!"{reason}: invalid field specification '{text}'"
  | .incompatible letters => s!"options '-{letters}' are incompatible"
  | .longSeparator text => s!"multi-character tab '{text}'"
  | .emptySeparator => "empty tab"
  | .extraOperand path letter => s!"extra operand '{path}' not allowed with -{letter}"

/-- The letters that say how keys are compared. -/
def orderingLetters : List Char := ['b', 'd', 'f', 'g', 'h', 'i', 'M', 'n', 'R', 'r', 'V']

/-- A place in a key as it is written, and what follows. -/
def readPlace (key position : String) (chars : List Char) :
    Except SortFault ((Nat × Option Nat × List Char) × List Char) := do
  let count (position : String) (chars : List Char) : Except SortFault (Nat × List Char) :=
    match leadingNat chars with
    | (some n, rest) => .ok (n, rest)
    | (none, _) => .error (.badCount position (String.ofList chars))
  let (field, rest) ← count position chars
  if field = 0 then .error (.badKey "field number is zero" key)
  let (letter, rest) ← match rest with
    | '.' :: rest => do
      let (n, rest) ← count "after '.'" rest
      .ok (some n, rest)
    | rest => .ok (none, rest)
  let flags := rest.takeWhile (· ∈ orderingLetters)
  .ok ((field, letter, flags), rest.drop flags.length)

/-- Reads a key. -/
def readKey (key : String) : Except SortFault SortKey := do
  let ((field, letter, flags), rest) ← readPlace key "at field start" key.toList
  if letter = some 0 then .error (.badKey "character offset is zero" key)
  let start : FieldPlace := ⟨field - 1, letter.getD 1 - 1, flags⟩
  match rest with
  | [] => .ok ⟨start, none, flags⟩
  | ',' :: rest => do
    let ((field, letter, flags'), rest) ← readPlace key "after ','" rest
    if ¬ rest.isEmpty then .error (.badKey "stray character in field spec" key)
    .ok ⟨start, some ⟨field - 1, letter.getD 0, flags'⟩, flags ++ flags'⟩
  | _ => .error (.badKey "stray character in field spec" key)

/-- Skips fields.  With a separator the one behind them is skipped too if `past` asks for it;
without, the blanks in front of a field belong to it. -/
def skipFields (separator : Option Char) (past : Bool) : (count : Nat) → List Char → List Char
  | 0, line => line
  | count + 1, line =>
    match separator with
    | some c =>
      let rest := line.dropWhile (· ≠ c)
      skipFields separator past count (if past ∨ 0 < count then rest.drop 1 else rest)
    | none =>
      let rest := (skipSpaces line).dropWhile fun c => c != ' ' && c != '\t'
      skipFields separator past count rest

/-- What is left behind fields is the end of the line. -/
theorem skipFields_suffix (separator : Option Char) (past : Bool) (count : Nat)
    (line : List Char) : skipFields separator past count line <:+ line := by
  induction count generalizing line with
  | zero => exact List.suffix_rfl
  | succ count ih =>
    cases separator with
    | some c =>
      rw [skipFields]
      refine (ih _).trans ?_
      split
      · exact (List.drop_suffix 1 _).trans (List.dropWhile_suffix _)
      · exact List.dropWhile_suffix _
    | none =>
      rw [skipFields]
      exact (ih _).trans ((List.dropWhile_suffix _).trans (List.dropWhile_suffix _))

namespace SortKey

/-- The part of a line that a key takes. -/
def partOf (key : SortKey) (separator : Option Char) (blanks : Bool) (line : List Char) :
    List Char :=
  let skipped (place : FieldPlace) : List Char :=
    let rest := skipFields separator true place.fields line
    (if blanks ∨ 'b' ∈ place.flags then skipSpaces rest else rest).drop place.letters
  let atStart := skipped key.start
  let behind := match key.stop with
    | none => []
    | some place =>
      if place.letters = 0 then skipFields separator false (place.fields + 1) line
      else skipped place
  atStart.take (atStart.length - behind.length)

/-- **A key takes a part of the line.** -/
theorem partOf_infix (key : SortKey) (separator : Option Char) (blanks : Bool)
    (line : List Char) : key.partOf separator blanks line <:+: line := by
  have hskipped (place : FieldPlace) :
      ((if blanks ∨ 'b' ∈ place.flags then skipSpaces (skipFields separator true place.fields line)
        else skipFields separator true place.fields line).drop place.letters) <:+ line := by
    refine (List.drop_suffix _ _).trans ?_
    split
    · exact (List.dropWhile_suffix _).trans (skipFields_suffix _ _ _ _)
    · exact skipFields_suffix _ _ _ _
  exact (List.take_prefix _ _).isInfix.trans (hskipped key.start).isInfix

/-- What stands for a part of a line when it is compared. -/
def shown (flags : List Char) (text : List Char) : List Char :=
  let isPrint (c : Char) : Bool := ' ' ≤ c && c ≤ '~'
  let text :=
    if 'd' ∈ flags then text.filter fun c => c.isAlphanum || c == ' ' || c == '\t'
    else if 'i' ∈ flags then text.filter isPrint
    else text
  if 'f' ∈ flags then text.map Char.toUpper else text

/-- The order of lines by a key. -/
def order (key : SortKey) (separator : Option Char) (general : List Char) (a b : List Char) :
    Ordering :=
  let inherits := key.flags.isEmpty
  let flags := if inherits then general else key.flags
  let blanks := inherits && 'b' ∈ general
  let valuation := (flags.findSome? Valuation.ofLetter?).getD .bytes
  let part (line : List Char) : List Char := shown flags (key.partOf separator blanks line)
  let order := valuation.order (part a) (part b)
  if 'r' ∈ flags then order.swap else order

/-- The letters of a key that cannot stand together, if there are such. -/
def clash? (flags : List Char) : Option String :=
  let ignoring := if 'd' ∈ flags then ['d'] else if 'i' ∈ flags then ['i'] else []
  let valued := ['g', 'h', 'M', 'n'].filter (· ∈ flags)
  let other := ['R', 'V'].filter (· ∈ flags)
  let weight := valued.length + (if ignoring.isEmpty ∧ other.isEmpty then 0 else 1)
  if weight ≤ 1 then none
  else
    let all := flags ++ []
    let kept := (['d', 'f', 'g', 'h', 'i', 'M', 'n', 'R', 'V'].filter (· ∈ all)).filter fun c =>
      c ≠ 'i' ∨ ignoring = ['i']
    some (String.ofList kept)

end SortKey

/-! ### Sorting -/

/-- Merges lists that are taken to be in order: of their first items the least comes first, and of
several the one that stands in front. -/
def mergeLists {α : Type} (le : α → α → Bool) : (fuel : Nat) → List (List α) → List α
  | 0, _ => []
  | fuel + 1, lists =>
    let heads := lists.zipIdx.filterMap fun (list, i) => list.head?.map fun item => (item, i)
    let least := heads.foldl (fun (best : Option (α × Nat)) (item, i) =>
      match best with
      | some (least, j) => if le least item then some (least, j) else some (item, i)
      | none => some (item, i)) none
    match least with
    | none => []
    | some (item, i) =>
      item :: mergeLists le fuel (lists.zipIdx.map fun (list, j) => if i = j then list.drop 1
        else list)

/-- Keeps the first of neighbours that count as the same. -/
def firstOfSame {α : Type} (same : α → α → Bool) (items : List α) : List α :=
  (items.foldl (fun (kept : List α) item =>
    match kept with
    | last :: _ => if same last item then kept else item :: kept
    | [] => [item]) []).reverse

/-- What is kept is in the order in which it stood. -/
theorem firstOfSame_sublist {α : Type} (same : α → α → Bool) (items : List α) :
    (firstOfSame same items).Sublist items := by
  have hreversed (items : List α) : (firstOfSame same items.reverse).reverse.Sublist items := by
    rw [firstOfSame, List.reverse_reverse, List.foldl_reverse]
    induction items with
    | nil => exact .slnil
    | cons item items ih =>
      rw [List.foldr_cons]
      split
      next last kept hkept =>
        split
        · exact ih.cons item
        · exact ih.cons_cons item
      next => exact (List.nil_sublist items).cons_cons item
  simpa using List.reverse_sublist.2 (hreversed items.reverse)

/-- How many lines of a list are in order, if not all of them are. -/
def disorder? {α : Type} (inOrder : α → α → Bool) : (place : Nat) → List α → Option (Nat × α)
  | _, [] | _, [_] => none
  | place, a :: b :: rest =>
    if inOrder a b then disorder? inOrder (place + 1) (b :: rest) else some (place + 1, b)

/-- **Nothing is out of order** exactly where all neighbours are in order. -/
theorem disorder?_eq_none_iff {α : Type} {inOrder : α → α → Bool} {place : Nat} {items : List α} :
    disorder? inOrder place items = none ↔
      ∀ i a b, items[i]? = some a → items[i + 1]? = some b → inOrder a b = true := by
  induction items generalizing place with
  | nil => simp [disorder?]
  | cons a rest ih =>
    cases rest with
    | nil => simp [disorder?]
    | cons b rest =>
      rw [disorder?]
      split
      next hab =>
        rw [ih]
        refine ⟨fun h i => ?_, fun h i => by simpa using h (i + 1)⟩
        cases i with
        | zero => simp_all
        | succ i => simpa using h i
      next hab =>
        simp only [reduceCtorEq, false_iff]
        exact fun h => hab (h 0 a b rfl rfl)

/-- The separator of fields that is asked for. -/
def readSeparator (text : String) : Except SortFault Char :=
  match text.toList with
  | [] => .error .emptySeparator
  | [c] => .ok c
  | ['\\', '0'] => .ok '\x00'
  | _ => .error (.longSeparator text)

/-- What lines are sorted by: keys, a separator of fields, and the letters that hold for keys that
have none of their own. -/
structure Sorting where
  keys : List SortKey
  separator : Option Char
  general : List Char
  unique : Bool
  stable : Bool

namespace Sorting

/-- Reads what lines are sorted by from options. -/
def ofOptions (options : List (Char × String)) : Except SortFault Sorting := do
  let keys ← ((options.filter (·.1 = 'k')).map (·.2)).mapM readKey
  let separator ← ((optionValue? options 't').map readSeparator).elim (.ok none) (·.map some)
  let general := (options.map (·.1)).filter (· ∈ orderingLetters)
  let keys :=
    if keys.isEmpty ∧ general.any (· ≠ 'r') then [⟨⟨0, 0, []⟩, none, []⟩] else keys
  match keys.findSome? fun key =>
      SortKey.clash? (if key.flags.isEmpty then general else key.flags) with
  | some letters => .error (.incompatible letters)
  | none => .ok ⟨keys, separator, general, hasOption options 'u', hasOption options 's'⟩

/-- The order of lines by the keys. -/
def byKeys (s : Sorting) (a b : List Char) : Ordering :=
  s.keys.foldl (fun order key => order.then (key.order s.separator s.general a b)) .eq

/-- The order of lines: by the keys, and where these do not decide, by all their bytes unless the
lines are to stay where they are. -/
def order (s : Sorting) (a b : List Char) : Ordering :=
  let bytes := if 'r' ∈ s.general then (compareBytes a b).swap else compareBytes a b
  if s.keys.isEmpty then bytes
  else (s.byKeys a b).then (if s.unique ∨ s.stable then .eq else bytes)

/-- Without keys the lines are compared by all their bytes. -/
theorem order_of_keys_eq_nil {s : Sorting} (hkeys : s.keys = []) (hforward : 'r' ∉ s.general)
    (a b : List Char) : (s.order a b != .gt) = charsLe a b := by
  simp [order, hkeys, hforward, charsLe]

end Sorting

/-- **Sorting by bytes** leads to sorted lines. -/
theorem pairwise_mergeSort_charsLe (lines : List (List Char)) :
    (lines.mergeSort charsLe).Pairwise fun a b => charsLe a b = true := by
  refine List.pairwise_mergeSort ?_ charsLe_total lines
  exact fun _ _ _ => charsLe_trans

/-- **Sorted lines depend on nothing but the lines**, not on where they stood. -/
theorem mergeSort_charsLe_of_perm {lines lines' : List (List Char)} (h : lines.Perm lines') :
    lines.mergeSort charsLe = lines'.mergeSort charsLe := by
  have hperm := (List.mergeSort_perm lines charsLe).trans
    (h.trans (List.mergeSort_perm lines' charsLe).symm)
  exact hperm.eq_of_pairwise (fun a b _ _ => charsLe_antisymm) (pairwise_mergeSort_charsLe lines)
    (pairwise_mergeSort_charsLe lines')

/-- Long names for words that say how lines are sorted. -/
def sortTable : OptionTable :=
  ⟨"bdfghiMnRrVscCmuz", "ktoST", [("numeric-sort", 'n'), ("reverse", 'r'), ("unique", 'u'),
    ("ignore-case", 'f'), ("stable", 's'), ("key", 'k'), ("field-separator", 't'),
    ("ignore-leading-blanks", 'b'), ("dictionary-order", 'd'), ("general-numeric-sort", 'g'),
    ("human-numeric-sort", 'h'), ("ignore-nonprinting", 'i'), ("month-sort", 'M'),
    ("version-sort", 'V'), ("random-sort", 'R'), ("merge", 'm'), ("output", 'o'),
    ("zero-terminated", 'z'), ("check", 'c'), ("buffer-size", 'S'),
    ("temporary-directory", 'T'), ("parallel", 'T')]⟩

/-- Sorts lines: by keys, which `-k` names, or as a whole; `-c` and `-C` only look whether they are
in order, `-m` merges files that are, `-u` keeps one of those that count as the same, and `-o`
writes into a file. -/
def sort (task : Task) : FilesReport :=
  match task.options sortTable with
  | .error fault => ⟨.misused task "sort" 2 fault.message, []⟩
  | .ok (options, paths) =>
    let checking := options.any fun (letter, _) => letter = 'c' ∨ letter = 'C'
    let mark := if hasOption options 'z' then '\x00' else '\n'
    let letter := ((lastOption? options ['c', 'C']).map (·.1)).getD 'c'
    let sorting? := do
      let sorting ← Sorting.ofOptions options
      match checking, paths with
      | true, _ :: extra :: _ => .error (.extraOperand extra letter)
      | _, _ => .ok sorting
    let (found, complaint) := task.sources paths fun path fault =>
      let what := if fault = .directory then "read failed" else "cannot read"
      s!"sort: {what}: {path}: {fault.message}"
    let left := if Task.readsInput paths then [] else task.input
    match sorting?, complaint with
    | .error fault, _ => ⟨.complaining task 2 s!"sort: {fault.message}", []⟩
    | .ok _, _ :: _ => ⟨⟨[], complaint, 2, left⟩, []⟩
    | .ok sorting, [] =>
      let lists := found.map fun (_, text) => plainRecords mark text
      -- lines with equal keys are the same, even if the whole lines differ
      let same (a b : List Char) : Bool :=
        (if sorting.keys.isEmpty then compareBytes a b else sorting.byKeys a b) == .eq
      let le (a b : List Char) : Bool := sorting.order a b != .gt
      if checking then
        let inOrder (a b : List Char) : Bool := le a b && !(sorting.unique && same a b)
        match disorder? inOrder 1 lists.flatten with
        | none => ⟨⟨[], [], 0, left⟩, []⟩
        | some (place, line) =>
          let path := paths.headD "-"
          let text := s!"sort: {path}:{place}: disorder: ".toList ++ line ++ ['\n']
          ⟨⟨[], if letter = 'C' then [] else text, 1, left⟩, []⟩
      else
        let lines :=
          if hasOption options 'm' then mergeLists le (lists.flatten.length + 1) lists
          else lists.flatten.mergeSort le
        let lines := if sorting.unique then firstOfSame same lines else lines
        let text := joinRecords mark lines
        match optionValue? options 'o' with
        | some path => ⟨⟨[], [], 0, left⟩, [(path, text)]⟩
        | none => ⟨⟨text, [], 0, left⟩, []⟩

/-! ### Equal neighbours -/

/-- Groups equal neighbours. -/
def groupsOf {α : Type} (same : α → α → Bool) (items : List α) : List (List α) :=
  items.foldr (fun item groups =>
    match groups with
    | (next :: more) :: rest =>
      if same item next then (item :: next :: more) :: rest else [item] :: (next :: more) :: rest
    | _ => [item] :: groups) []

/-- **Groups leave nothing out** and keep the order. -/
theorem flatten_groupsOf {α : Type} (same : α → α → Bool) (items : List α) :
    (groupsOf same items).flatten = items := by
  induction items with
  | nil => rfl
  | cons item items ih =>
    rw [groupsOf, List.foldr_cons, ← groupsOf]
    split
    next next more rest hgroups =>
      rw [hgroups] at ih
      split <;> simpa using ih
    next => simpa using ih

/-- Groups have items. -/
theorem ne_nil_of_mem_groupsOf {α : Type} {same : α → α → Bool} {items group : List α}
    (hgroup : group ∈ groupsOf same items) : group ≠ [] := by
  induction items with
  | nil => simp [groupsOf] at hgroup
  | cons item items ih =>
    rw [groupsOf, List.foldr_cons, ← groupsOf] at hgroup
    split at hgroup
    next next more rest hgroups =>
      rw [hgroups] at ih
      split at hgroup <;> grind
    next => grind

/-- The options of `uniq`. -/
def uniqOptions : OptionTable :=
  ⟨"cdDuizG", "fsw#", [("count", 'c'), ("repeated", 'd'), ("unique", 'u'), ("ignore-case", 'i'),
    ("all-repeated", 'D'), ("group", 'G'), ("skip-fields", 'f'), ("skip-chars", 's'),
    ("check-chars", 'w'), ("zero-terminated", 'z')]⟩

/-- Each of equal neighbouring lines once: `-c` with their number, `-d` only where there are
several, `-D` all of these, `-u` only where there is one, `-i` whatever the case of letters, `-f`
and `-s` from a field and a letter on and `-w` up to a letter. -/
def uniqReport (task : Task) : Report :=
  task.withOptions "uniq" 1 uniqOptions fun options paths =>
    let has := hasOption options
    let count (letters : List Char) (what : String) : Except String (Option Nat) :=
      match lastOption? options letters with
      | none => .ok none
      | some (_, text) =>
        match natural? text with
        | some n => .ok (some n)
        | none => .error s!"uniq: {text}: invalid number of {what}"
    let counts := do
      let fields ← count ['f', '#'] "fields to skip"
      let letters ← count ['s'] "bytes to skip"
      let width ← count ['w'] "bytes to compare"
      .ok (fields.getD 0, letters.getD 0, width)
    match counts with
    | .error text => .complaining task 1 text
    | .ok (fields, letters, width) =>
      if has 'D' ∧ has 'c' then
        .misused task "uniq" 1 "printing all duplicated lines and repeat counts is meaningless"
      else if has 'G' ∧ options.any (fun (letter, _) => letter ∈ ['c', 'd', 'D', 'u']) then
        .misused task "uniq" 1 "--group is mutually exclusive with -c/-d/-D/-u"
      else if 2 < paths.length then
        .misused task "uniq" 1 ("extra operand '" ++ paths.getD 2 "" ++ "'")
      else
        let mark := if has 'z' then '\x00' else '\n'
        -- what is left of a line when fields and letters are skipped decides
        let compared (line : List Char) : List Char :=
          let line := (skipFields none false fields line).drop letters
          let line := (width.map line.take).getD line
          if has 'i' then line.map Char.toUpper else line
        let keeps (group : List (List Char)) : Bool :=
          (!(has 'd' || has 'D') || 1 < group.length) && (!has 'u' || group.length == 1)
        let apart := (lastOption? options ['D', 'G']).map fun (letter, value) =>
          if value ≠ "" then value else if letter = 'G' then "separate" else "none"
        let around (word : String) : List (List Char) :=
          if apart = some word ∨ apart = some "both" then [[]] else []
        task.throughAll (paths.take 1) (Task.missing "uniq") 1 fun text =>
          let groups := groupsOf (fun a b => compared a == compared b) (plainRecords mark text)
          let kept := groups.filter keeps
          if has 'G' ∨ has 'D' then
            -- an empty line sets two groups apart
            let between := if apart = some "none" then [] else [[]]
            let lines := around "prepend" ++ between.intercalate kept ++ around "append"
            if kept.isEmpty then [] else joinRecords mark lines
          else joinRecords mark (kept.map fun group =>
            (if has 'c' then padNumber 7 group.length ++ [' '] else []) ++ group.headD [])

/-- The same, into the file that a second operand names. -/
def uniq (task : Task) : FilesReport :=
  let words := task.words.flatMap fun word =>
    match word.toList with
    | '+' :: digits => if digits.all Char.isDigit then ["-s", String.ofList digits] else [word]
    | _ => [word]
  let task := { task with words }
  let report := uniqReport task
  match task.options uniqOptions with
  | .ok (_, [_, path]) =>
    if report.complaint.isEmpty ∧ path ≠ "-" then
      ⟨{ report with printed := [] }, [(path, report.printed)]⟩
    else ⟨report, []⟩
  | _ => ⟨report, []⟩

end Shell

end TreeOutline
