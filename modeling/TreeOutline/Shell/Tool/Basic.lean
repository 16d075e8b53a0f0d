import TreeOutline.Shell.Real
import TreeOutline.Shell.Store

namespace TreeOutline

/-!
# Tools

A tool reads its words, its input and files, and prints.

* `Shell.Task` — what a tool is given; `Shell.Report` — what comes of it; `Shell.FilesReport` —
  the same for a tool that also writes files.
* `Shell.OptionTable`, `Task.withOptions` — options in front of operands.
* `Task.sources`, `Task.throughAll`, `Task.throughEach` — the contents of the files that a tool is
  to read.
* `Shell.linesOf` — a text as lines, each with its end.
* `Shell.flatten_recordsOf`, `plainRecords_joinRecords`, `intercalate_splitAtChar`,
  `flatten_letters` — nothing is lost when a text falls into records, parts or characters.
-/

namespace Shell

/-- What a tool is given: its words, its input, whether that is a file, and the files there are. -/
structure Task where
  words : List String
  input : List Char
  inputIsFile : Bool
  store : Store

/-- What comes of a tool: what it prints, what it complains, its status, and the input that it
leaves. -/
structure Report where
  printed : List Char
  complaint : List Char
  status : Nat
  rest : List Char

/-- What comes of a tool that also writes files: their names and what they hold then. -/
structure FilesReport extends Report where
  written : List (String × List Char)

namespace Report

/-- A tool that prints and has used up its input. -/
def printing (text : List Char) : Report := ⟨text, [], 0, []⟩

/-- A tool that prints and does not look at its input. -/
def answering (task : Task) (text : String) : Report := ⟨text.toList, [], 0, task.input⟩

/-- A tool that does not look at its input. -/
def quiet (task : Task) (status : Nat) : Report := ⟨[], [], status, task.input⟩

/-- A tool that cannot do its work. -/
def complaining (task : Task) (status : Nat) (text : String) : Report :=
  ⟨[], text.toList ++ ['\n'], status, task.input⟩

/-- A tool that is not asked in the right way. -/
def misused (task : Task) (tool : String) (status : Nat) (text : String) : Report :=
  complaining task status s!"{tool}: {text}\nTry '{tool} --help' for more information."

end Report

/-! ### Options -/

/-- The options of a tool: letters that stand alone, letters with a value, and long names for
letters. -/
structure OptionTable where
  flags : String
  valued : String
  long : List (String × Char)

/-- What is wrong with options. -/
inductive OptionFault where
  | unknown (letter : Char)
  | unknownName (word : String)
  | missingValue (letter : Char)
  | missingValueOf (name : String)
deriving DecidableEq, Repr

/-- The wording of a fault. -/
def OptionFault.message : OptionFault → String
  | .unknown letter => s!"invalid option -- '{letter}'"
  | .unknownName word => s!"unrecognized option '{word}'"
  | .missingValue letter => s!"option requires an argument -- '{letter}'"
  | .missingValueOf name => s!"option '--{name}' requires an argument"

/-- The options that are given, with their values, and the operands. -/
abbrev SplitWords := List (Char × String) × List String

namespace OptionTable

/-- Splits words into options and operands.  Letters with a value take the rest of their word or the
next word.  A dash with a digit behind it is the option `#`, if there is one. -/
def split (table : OptionTable) : (fuel : Nat) → List String → Except OptionFault SplitWords
  | 0, words => .ok ([], words)
  | fuel + 1, words =>
    let withOption (letter : Char) (value : String) (rest : List String) :
        Except OptionFault SplitWords :=
      (split table fuel rest).map fun (options, words) => ((letter, value) :: options, words)
    match words with
    | [] => .ok ([], [])
    | word :: rest =>
      match word.toList with
      | ['-', '-'] => .ok ([], rest)
      | '-' :: '-' :: long =>
        let name := long.takeWhile (· ≠ '=')
        let value := long.drop name.length
        match table.long.find? fun (text, _) => name.isPrefixOf text.toList with
        | none => .error (.unknownName word)
        | some (text, letter) =>
          if ¬ table.valued.toList.contains letter then
            withOption letter (String.ofList (value.drop 1)) rest
          else
            match value, rest with
            | _ :: value, rest => withOption letter (String.ofList value) rest
            | [], next :: rest => withOption letter next rest
            | [], [] => .error (.missingValueOf text)
      | '-' :: letter :: more =>
        if table.valued.toList.contains letter then
          match more, rest with
          | [], [] => .error (.missingValue letter)
          | [], value :: rest => withOption letter value rest
          | more, rest => withOption letter (String.ofList more) rest
        else if table.flags.toList.contains letter then
          withOption letter ""
            (if more.isEmpty then rest else String.ofList ('-' :: more) :: rest)
        else if letter.isDigit ∧ table.valued.toList.contains '#' then
          withOption '#' (String.ofList (letter :: more)) rest
        else .error (.unknown letter)
      | _ => (split table fuel rest).map fun (options, words) => (options, word :: words)

end OptionTable

namespace Task

/-- The options and operands of a task. -/
def options (task : Task) (table : OptionTable) : Except OptionFault SplitWords :=
  table.split (task.words.foldl (fun n word => n + word.length + 1) 1) task.words

/-- A tool by its options and operands; it ends with a status if there is a fault in them. -/
def withOptions (task : Task) (tool : String) (status : Nat) (table : OptionTable)
    (use : List (Char × String) → List String → Report) : Report :=
  match task.options table with
  | .ok (options, words) => use options words
  | .error fault => .misused task tool status fault.message

end Task

/-- Whether an option is given. -/
def hasOption (options : List (Char × String)) (letter : Char) : Bool := options.any (·.1 = letter)

/-- The last of some options that is given, and its value. -/
def lastOption? (options : List (Char × String)) (letters : List Char) : Option (Char × String) :=
  options.reverse.find? (·.1 ∈ letters)

/-- The value of an option. -/
def optionValue? (options : List (Char × String)) (letter : Char) : Option String :=
  (lastOption? options [letter]).map (·.2)

/-! ### Files -/

/-- What is said of a file that is not there. -/
def noSuchFile : String := StoreFault.absent.message

namespace Task

/-- The contents of a file by its path, a dash standing for the input, or why there are none. -/
def contents (task : Task) (path : String) : Except StoreFault (List Char) :=
  if path ∈ ["-", "/dev/stdin"] then .ok task.input
  else if path = "/dev/null" then .ok []
  else task.store.contents path

/-- The contents of a file by its path, a dash standing for the input. -/
def contents? (task : Task) (path : String) : Option (List Char) := (task.contents path).toOption

/-- Whether a tool with these files reads its input. -/
def readsInput (paths : List String) : Bool :=
  paths.isEmpty || paths.any fun path => path ∈ ["-", "/dev/stdin"]

/-- The contents of the files named, or of the input when none is named; and the complaints about
those that cannot be read. -/
def sources (task : Task) (paths : List String) (complaint : String → StoreFault → String) :
    List (String × List Char) × List Char :=
  let paths := if paths.isEmpty then ["-"] else paths
  (paths.filterMap fun path => (task.contents? path).map fun text => (path, text),
    paths.flatMap fun path =>
      match task.contents path with
      | .ok _ => []
      | .error fault => (complaint path fault ++ "\n").toList)

/-- The usual complaint of a tool about a file that cannot be read. -/
def missing (tool path : String) (fault : StoreFault) : String :=
  s!"{tool}: {path}: {fault.message}"

/-- The usual complaint of a tool about a file, if that cannot be read. -/
def missingOf (task : Task) (tool path : String) : String :=
  match task.contents path with
  | .ok _ => ""
  | .error fault => missing tool path fault

/-- What comes of a tool that prints a text made of all its files joined together. -/
def throughAll (task : Task) (paths : List String) (complaint : String → StoreFault → String)
    (failure : Nat) (change : List Char → List Char) : Report :=
  let (found, complaint) := task.sources paths complaint
  ⟨change (found.flatMap (·.2)), complaint, if complaint.isEmpty then 0 else failure,
    if readsInput paths then [] else task.input⟩

/-- What comes of a tool that changes the text of each of its files. -/
def throughEach (task : Task) (paths : List String) (complaint : String → StoreFault → String)
    (change : List Char → List Char) : Report :=
  let (found, complaint) := task.sources paths complaint
  ⟨found.flatMap fun (_, text) => change text, complaint, if complaint.isEmpty then 0 else 1,
    if readsInput paths then [] else task.input⟩

end Task

/-! ### Lines -/

/-- A text as records, each with the mark at its end; only the last one may lack it. -/
def recordsOf (mark : Char) (text : List Char) : List (List Char) :=
  text.foldr (fun c records =>
    if c = mark then [mark] :: records
    else
      match records with
      | [] => [[c]]
      | record :: rest => (c :: record) :: rest) []

@[simp] theorem recordsOf_nil (mark : Char) : recordsOf mark [] = [] := rfl

/-- A mark ends a record of its own at the start. -/
theorem recordsOf_mark (mark : Char) (text : List Char) :
    recordsOf mark (mark :: text) = [mark] :: recordsOf mark text := if_pos rfl

/-- Any other character begins the first record. -/
theorem recordsOf_cons {mark c : Char} (h : c ≠ mark) (text : List Char) :
    recordsOf mark (c :: text) =
      (c :: (recordsOf mark text).headD []) :: (recordsOf mark text).tail := by
  show (if c = mark then _ else _) = _
  rw [if_neg h]
  show (match recordsOf mark text with
    | [] => [[c]]
    | record :: rest => (c :: record) :: rest) = _
  cases recordsOf mark text with
  | nil => rfl
  | cons record rest => rfl

/-- **Nothing is lost** when a text falls into records. -/
theorem flatten_recordsOf (mark : Char) (text : List Char) :
    (recordsOf mark text).flatten = text := by
  induction text with
  | nil => rfl
  | cons c rest ih =>
    by_cases h : c = mark
    · subst h
      rw [recordsOf_mark, List.flatten_cons, ih]
      rfl
    · rw [recordsOf_cons h, List.flatten_cons]
      cases hrecords : recordsOf mark rest with
      | nil =>
        rw [hrecords] at ih
        simp [← ih]
      | cons record records =>
        rw [hrecords] at ih
        simp [← ih]

/-- A record that ends with its mark stands alone, whatever follows. -/
theorem recordsOf_append_mark {mark : Char} {record : List Char} (h : mark ∉ record)
    (text : List Char) :
    recordsOf mark (record ++ mark :: text) = (record ++ [mark]) :: recordsOf mark text := by
  induction record with
  | nil => exact recordsOf_mark mark text
  | cons c rest ih =>
    have hc : c ≠ mark := fun heq => h (heq ▸ List.mem_cons_self)
    have hrest : mark ∉ rest := fun hmem => h (List.mem_cons_of_mem c hmem)
    rw [List.cons_append, recordsOf_cons hc, ih hrest]
    rfl

/-- The records of a text without their marks. -/
def plainRecords (mark : Char) (text : List Char) : List (List Char) :=
  (recordsOf mark text).map (·.takeWhile (· ≠ mark))

/-- Records that all have a mark at their end. -/
def joinRecords (mark : Char) (records : List (List Char)) : List Char :=
  records.flatMap (· ++ [mark])

/-- **Records are read as they were written**, if their mark is in none of them. -/
theorem plainRecords_joinRecords {mark : Char} {records : List (List Char)}
    (h : ∀ record ∈ records, mark ∉ record) :
    plainRecords mark (joinRecords mark records) = records := by
  induction records with
  | nil => rfl
  | cons record rest ih =>
    have hrecord : mark ∉ record := h record List.mem_cons_self
    have hrest := ih fun other hother => h other (List.mem_cons_of_mem record hother)
    have hwhole : (record ++ [mark]).takeWhile (· ≠ mark) = record := by
      rw [List.takeWhile_append_of_pos]
      · simp
      · intro c hc
        simpa using fun heq : c = mark => hrecord (heq ▸ hc)
    unfold joinRecords plainRecords at *
    rw [List.flatMap_cons, List.append_assoc, List.singleton_append,
      recordsOf_append_mark hrecord, List.map_cons, hrest, hwhole]

/-- A text as lines, each with its end; only the last one may lack it. -/
def linesOf (text : List Char) : List (List Char) := recordsOf '\n' text

/-- A line without its end. -/
def withoutEnd (line : List Char) : List Char := line.takeWhile (· ≠ '\n')

/-- The end of a line, if it has one. -/
def endOf (line : List Char) : List Char := line.drop (withoutEnd line).length

/-- A line is what it says and its end. -/
theorem withoutEnd_append_endOf (line : List Char) : withoutEnd line ++ endOf line = line := by
  exact List.prefix_iff_eq_append.1 (List.takeWhile_prefix _)

/-- The lines of a text without their ends. -/
def plainLines (text : List Char) : List (List Char) := (linesOf text).map withoutEnd

/-- Lines that all end. -/
def joinLines (lines : List (List Char)) : List Char := lines.flatMap (· ++ ['\n'])

/-- A text at the right end of a column. -/
def padLeft (width : Nat) (text : List Char) : List Char :=
  List.replicate (width - text.length) ' ' ++ text

/-- A text that is too wide for its column keeps its width. -/
theorem length_padLeft (width : Nat) (text : List Char) :
    (padLeft width text).length = max width text.length := by
  unfold padLeft
  rw [List.length_append, List.length_replicate]
  omega

/-- A number at the right end of a column. -/
def padNumber (width n : Nat) : List Char := padLeft width (toString n).toList

/-- Splits a line at a character. -/
def splitAtChar (separator : Char) (line : List Char) : List (List Char) :=
  line.foldr (fun c parts =>
    if c = separator then [] :: parts
    else
      match parts with
      | [] => [[c]]
      | part :: rest => (c :: part) :: rest) [[]]

@[simp] theorem splitAtChar_nil (separator : Char) : splitAtChar separator [] = [[]] := rfl

/-- A separator at the start ends an empty part. -/
theorem splitAtChar_separator (separator : Char) (line : List Char) :
    splitAtChar separator (separator :: line) = [] :: splitAtChar separator line := if_pos rfl

/-- A line always has a part. -/
theorem splitAtChar_ne_nil (separator : Char) (line : List Char) :
    splitAtChar separator line ≠ [] := by
  cases line with
  | nil => simp
  | cons c rest =>
    unfold splitAtChar
    rw [List.foldr_cons]
    split
    next => simp
    next => split <;> simp

/-- Any other character begins the first part. -/
theorem splitAtChar_cons {separator c : Char} (h : c ≠ separator) {line part : List Char}
    {parts : List (List Char)} (hline : splitAtChar separator line = part :: parts) :
    splitAtChar separator (c :: line) = (c :: part) :: parts := by
  show (if c = separator then _ else _) = _
  rw [if_neg h]
  show (match splitAtChar separator line with
    | [] => [[c]]
    | part :: rest => (c :: part) :: rest) = _
  rw [hline]

/-- **Splitting loses nothing**: with the separator between them the parts are the line. -/
theorem intercalate_splitAtChar (separator : Char) (line : List Char) :
    [separator].intercalate (splitAtChar separator line) = line := by
  induction line with
  | nil => rfl
  | cons c rest ih =>
    obtain ⟨part, parts, hparts⟩ :=
      List.exists_cons_of_ne_nil (splitAtChar_ne_nil separator rest)
    by_cases h : c = separator
    · subst h
      rw [splitAtChar_separator]
      rw [hparts] at ih ⊢
      rw [List.intercalate_cons_cons, ih]
      rfl
    · rw [splitAtChar_cons h hparts]
      rw [hparts] at ih
      cases parts with
      | nil => simpa using ih
      | cons next parts =>
        rw [List.intercalate_cons_cons] at ih ⊢
        rw [← ih]
        rfl

/-- No part has the separator in it. -/
theorem not_mem_of_mem_splitAtChar {separator : Char} {line part : List Char}
    (h : part ∈ splitAtChar separator line) : separator ∉ part := by
  induction line generalizing part with
  | nil =>
    rw [splitAtChar_nil, List.mem_singleton] at h
    simp [h]
  | cons c rest ih =>
    obtain ⟨first, parts, hparts⟩ :=
      List.exists_cons_of_ne_nil (splitAtChar_ne_nil separator rest)
    rw [hparts] at ih
    by_cases hc : c = separator
    · subst hc
      rw [splitAtChar_separator, hparts] at h
      rcases List.mem_cons.1 h with rfl | hrest
      · exact List.not_mem_nil
      · exact ih hrest
    · rw [splitAtChar_cons hc hparts] at h
      rcases List.mem_cons.1 h with rfl | hrest
      · have hfirst := ih List.mem_cons_self
        simp [hfirst, Ne.symm hc]
      · exact ih (List.mem_cons_of_mem _ hrest)

/-- A text in pieces of a length. -/
def piecesOf {α : Type} (length : Nat) : (fuel : Nat) → List α → List (List α)
  | 0, _ => []
  | fuel + 1, items =>
    if items.isEmpty ∨ length = 0 then []
    else items.take length :: piecesOf length fuel (items.drop length)

/-- Pieces that are not empty make up the whole. -/
theorem flatten_piecesOf {α : Type} {length fuel : Nat} (hlength : length ≠ 0) {items : List α}
    (hfuel : items.length < fuel) : (piecesOf length fuel items).flatten = items := by
  induction fuel generalizing items with
  | zero => omega
  | succ fuel ih =>
    rw [piecesOf]
    split
    next hdone =>
      rcases hdone with hempty | hzero
      · rw [List.isEmpty_iff.1 hempty]
        rfl
      · exact absurd hzero hlength
    next hmore =>
      have hitems : 0 < items.length := by
        rw [List.length_pos_iff]
        exact fun heq => hmore (.inl (List.isEmpty_iff.2 heq))
      rw [List.flatten_cons, ih (by rw [List.length_drop]; omega), List.take_append_drop]

/-- No piece is longer than it may be. -/
theorem length_le_of_mem_piecesOf {α : Type} {length fuel : Nat} {items piece : List α}
    (h : piece ∈ piecesOf length fuel items) : piece.length ≤ length := by
  induction fuel generalizing items with
  | zero => exact absurd h List.not_mem_nil
  | succ fuel ih =>
    rw [piecesOf] at h
    split at h
    next => exact absurd h List.not_mem_nil
    next =>
      rcases List.mem_cons.1 h with rfl | hrest
      · exact List.length_take_le ..
      · exact ih hrest

/-- A whole in pieces of a length falls into these pieces. -/
theorem piecesOf_flatten {α : Type} {length fuel : Nat} (hlength : length ≠ 0)
    {pieces : List (List α)} (hpieces : ∀ piece ∈ pieces, piece.length = length)
    (hfuel : pieces.flatten.length < fuel) : piecesOf length fuel pieces.flatten = pieces := by
  induction pieces generalizing fuel with
  | nil =>
    obtain ⟨fuel, rfl⟩ := Nat.exists_eq_add_one_of_ne_zero (Nat.ne_of_gt hfuel)
    rfl
  | cons piece pieces ih =>
    obtain ⟨fuel, rfl⟩ := Nat.exists_eq_add_one_of_ne_zero (Nat.ne_of_gt (Nat.zero_lt_of_lt hfuel))
    have hpiece : piece.length = length := hpieces piece List.mem_cons_self
    have hne : piece ≠ [] := fun heq => hlength (by rw [← hpiece, heq]; rfl)
    rw [List.flatten_cons, List.length_append] at hfuel
    have hrest := ih (fun other hother => hpieces other (List.mem_cons_of_mem piece hother))
      (by omega : pieces.flatten.length < fuel)
    rw [piecesOf, List.flatten_cons, if_neg (by simp [hne, hlength]), List.take_left' hpiece,
      List.drop_left' hpiece, hrest]

/-- Pieces are not empty. -/
theorem ne_nil_of_mem_piecesOf {α : Type} {length fuel : Nat} {items piece : List α}
    (h : piece ∈ piecesOf length fuel items) : piece ≠ [] := by
  induction fuel generalizing items with
  | zero => exact absurd h List.not_mem_nil
  | succ fuel ih =>
    rw [piecesOf] at h
    split at h
    next => exact absurd h List.not_mem_nil
    next hmore =>
      rcases List.mem_cons.1 h with rfl | hrest
      · simpa [List.take_eq_nil_iff, or_comm] using hmore
      · exact ih hrest

/-! ### Characters of more than one byte -/

/-- How many bytes follow the first one of a character. -/
def followers (c : Char) : Nat :=
  if c.toNat < 0xc2 then 0 else if c.toNat < 0xe0 then 1 else if c.toNat < 0xf0 then 2
  else if c.toNat < 0xf5 then 3 else 0

/-- Whether a byte follows the first one of a character. -/
def isFollower (c : Char) : Bool := 0x80 ≤ c.toNat && c.toNat < 0xc0

/-- The bytes of the character that a text begins with; one byte where it begins with none. -/
def firstLetter (text : List Char) : List Char :=
  match text with
  | [] => []
  | c :: rest =>
    let more := (rest.take (followers c)).takeWhile isFollower
    if more.length = followers c then c :: more else [c]

/-- The first letter stands at the start. -/
theorem firstLetter_isPrefix (text : List Char) : firstLetter text <+: text := by
  cases text with
  | nil => exact List.prefix_rfl
  | cons c rest =>
    unfold firstLetter
    dsimp only
    split
    next =>
      exact List.prefix_cons_inj c |>.2 ((List.takeWhile_prefix _).trans (List.take_prefix _ _))
    next => exact List.prefix_cons_inj c |>.2 (List.nil_prefix)

/-- A text by its characters, each with its bytes. -/
def letters (text : List Char) : List (List Char) :=
  match text with
  | [] => []
  | c :: rest =>
    let letter := firstLetter (c :: rest)
    letter :: letters (rest.drop (letter.length - 1))
termination_by text.length
decreasing_by
  rw [List.length_drop, List.length_cons]
  omega

/-- **The characters of a text** are all its bytes in their order. -/
theorem flatten_letters (text : List Char) : (letters text).flatten = text := by
  induction text using letters.induct with
  | case1 => simp [letters]
  | case2 c rest letter ih =>
    have hletter : 0 < letter.length := by
      unfold letter firstLetter
      dsimp only
      split <;> simp
    have hdrop : rest.drop (letter.length - 1) = (c :: rest).drop letter.length := by
      rw [← List.drop_succ_cons (a := c), Nat.sub_add_cancel hletter]
    rw [letters, List.flatten_cons, ih, hdrop]
    exact List.prefix_iff_eq_append.1 (firstLetter_isPrefix _)

end Shell

end TreeOutline
