import TreeOutline.Shell.Tool.Basic

namespace TreeOutline

/-!
# Parts of files

* `Shell.Extent` — how much of a text is shown, counted from one of its ends;
  `Extent.first_append_last` — both parts together are the whole.
* `Shell.head`, `Shell.tail` — the beginning and the end of files.
* `Shell.tac` — the records of files from the last to the first; `flatten_chunksAt` — none of a text
  is lost between them.
-/

namespace Shell

/-- A number of lines or bytes, and the sign in front of it. -/
structure Extent where
  sign : Option Char
  count : Nat

namespace Extent

/-- Reads an extent.  A text that cannot be read is given back as it is complained about. -/
def read (tool text : String) : Except (String × QuantityFault) Extent :=
  let (sign, counted) := match text.toList with
    | '-' :: rest => (some '-', String.ofList rest)
    | '+' :: _ => (if tool = "tail" then some '+' else none, text)
    | _ => (none, text)
  match quantity? counted with
  | .ok count => .ok ⟨sign, count⟩
  | .error fault => .error (counted, fault)

/-- The first of some things, or all but the last ones. -/
def first {α : Type} (extent : Extent) (items : List α) : List α :=
  if extent.sign = some '-' then items.take (items.length - extent.count)
  else items.take extent.count

/-- The first of some things come in their order, and nothing stands in front of them. -/
theorem first_isPrefix {α : Type} (extent : Extent) (items : List α) :
    extent.first items <+: items := by
  unfold first
  split <;> exact List.take_prefix ..

/-- The last of some things, or those from a position on. -/
def last {α : Type} (extent : Extent) (items : List α) : List α :=
  if extent.sign = some '+' then items.drop (extent.count - 1)
  else items.drop (items.length - extent.count)

/-- The last of some things come in their order, and nothing stands behind them. -/
theorem last_suffix {α : Type} (extent : Extent) (items : List α) :
    extent.last items <:+ items := by
  unfold last
  split <;> exact List.drop_suffix ..

/-- **The first ones and those behind them** are all. -/
theorem first_append_last {α : Type} (count : Nat) (items : List α) :
    first ⟨none, count⟩ items ++ last ⟨some '+', count + 1⟩ items = items :=
  List.take_append_drop count items

/-- **All but the last ones and the last ones** are all. -/
theorem first_append_last_of_end {α : Type} (count : Nat) (items : List α) :
    first ⟨some '-', count⟩ items ++ last ⟨none, count⟩ items = items :=
  List.take_append_drop (items.length - count) items

/-- As many as asked for, or all. -/
theorem length_last {α : Type} (count : Nat) (items : List α) :
    (last ⟨none, count⟩ items).length = min count items.length := by
  rw [last, if_neg (by simp), List.length_drop]
  show items.length - (items.length - count) = _
  omega

end Extent

/-! ### Old forms -/

/-- The old form of the first word of `head`, a number and letters behind a dash, as options; or the
letter that does not belong there. -/
def headWords : List String → Except Char (List String)
  | [] => .ok []
  | word :: rest =>
    let body := word.toList.drop 1
    let digits := body.takeWhile Char.isDigit
    let letters := body.drop digits.length
    if ¬ word.startsWith "-" ∨ digits.isEmpty then .ok (word :: rest)
    else
      match letters.find? fun c => c ∉ ['b', 'c', 'k', 'l', 'm', 'q', 'v', 'z'] with
      | some c => .error c
      | none =>
        let byLines := ((letters.filter (· ∈ ['b', 'c', 'k', 'l', 'm'])).getLast?).all (· = 'l')
        let unit := ((letters.filter (· ∈ ['b', 'c', 'k', 'm'])).getLast?.filter (· ≠ 'c')).toList
        let flags := (letters.filter (· ∈ ['q', 'v', 'z'])).map fun c => String.ofList ['-', c]
        .ok ((if byLines then "-n" else "-c") :: String.ofList (digits ++ unit) :: flags ++ rest)

/-- The old form of the first word of `tail`, a number and a letter behind a sign, as options.  It
is taken for one only if there is at most one file. -/
def tailWords : List String → List String
  | [] => []
  | word :: rest =>
    let alone : Bool := match rest with
      | [] => true
      | [path] => path = "-" || !path.startsWith "-"
      | mark :: _ => mark = "--" && rest.length ≤ 2
    let body := word.toList.drop 1
    let digits := body.takeWhile Char.isDigit
    let (letter, behind) := match body.drop digits.length with
      | 'b' :: rest => ('b', rest)
      | 'c' :: rest => ('c', rest)
      | 'l' :: rest => ('l', rest)
      | rest => ('l', rest)
    let isOld := alone && (behind.isEmpty || behind == ['f']) &&
      (word.startsWith "+" || (word.startsWith "-" && !body.isEmpty && body != ['c']))
    if ¬ isOld then word :: rest
    else
      let digits := if digits.isEmpty then ['1', '0'] else digits
      let sign := if word.startsWith "+" then ['+'] else []
      let unit := if letter = 'b' then ['b'] else []
      (if letter = 'l' then "-n" else "-c") :: String.ofList (sign ++ digits ++ unit) :: rest

/-! ### The tools -/

/-- A part of each file, under its name if there are several.  The options of both tools are the
same: `-n` and `-c` for lines and bytes, `-z` for records, `-q` and `-v` for the names. -/
def excerpts (task : Task) (tool : String) (words : List String)
    (digitFault : Char → Report) (part : Extent → (byBytes : Bool) → (mark : Char) → List Char →
      List Char) : Report :=
  let table : OptionTable := ⟨"qvzf0123456789", "nc", [("lines", 'n'), ("bytes", 'c'),
    ("quiet", 'q'), ("silent", 'q'), ("verbose", 'v'), ("zero-terminated", 'z')]⟩
  Task.withOptions { task with words } tool 1 table fun options paths =>
    let (letter, value) := (lastOption? options ['n', 'c']).getD ('n', "10")
    match options.find? (·.1.isDigit), Extent.read tool value with
    | some (digit, _), _ => digitFault digit
    | none, .error (text, fault) =>
      let unit := if letter = 'c' then "bytes" else "lines"
      .complaining task 1 s!"{tool}: invalid number of {unit}: '{text}'{fault.suffix}"
    | none, .ok extent =>
      let byBytes := letter == 'c'
      let mark := if hasOption options 'z' then '\x00' else '\n'
      let (found, complaint) := task.sources paths fun path fault =>
        if fault = .directory then s!"{tool}: error reading '{path}': {fault.message}"
        else s!"{tool}: cannot open '{path}' for reading: {fault.message}"
      let names := (options.filter fun (letter, _) => letter = 'q' ∨ letter = 'v').getLast?
      let named := (names.map (·.1 == 'v')).getD (1 < paths.length)
      let name (path : String) : String := if path = "-" then "standard input" else path
      let parts := found.zipIdx.flatMap fun ((path, text), i) =>
        let title := (if i = 0 then "" else "\n") ++ s!"==> {name path} <==\n"
        (if named then title.toList else []) ++ part extent byBytes mark text
      let left :=
        if tool ≠ "head" ∨ extent.sign.isSome then []
        else if byBytes then task.input.drop extent.count
        else if task.inputIsFile then ((recordsOf mark task.input).drop extent.count).flatten
        else []
      ⟨parts, complaint, if complaint.isEmpty then 0 else 1,
        if Task.readsInput paths then left else task.input⟩

/-- The beginning of files. -/
def head (task : Task) : Report :=
  let digitFault (c : Char) : Report :=
    .misused task "head" 1 ("invalid trailing option -- " ++ String.singleton c)
  match headWords task.words with
  | .error c => digitFault c
  | .ok words => excerpts task "head" words digitFault fun extent byBytes mark text =>
    if byBytes then extent.first text else (extent.first (recordsOf mark text)).flatten

/-- The end of files. -/
def tail (task : Task) : Report :=
  let digitFault (c : Char) : Report :=
    .complaining task 1 ("tail: option used in invalid context -- " ++ String.singleton c)
  excerpts task "tail" (tailWords task.words) digitFault fun extent byBytes mark text =>
    if byBytes then extent.last text else (extent.last (recordsOf mark text)).flatten

/-- Splits a text behind each occurrence of a separator, or with `before` in front of it. -/
def chunksAt (separator : List Char) (before : Bool) : (fuel : Nat) → (chunk : List Char) →
    List Char → List (List Char)
  | 0, chunk, _ => [chunk.reverse]
  | _, chunk, [] => if chunk.isEmpty then [] else [chunk.reverse]
  | fuel + 1, chunk, c :: rest =>
    if separator.isPrefixOf (c :: rest) then
      let behind := (c :: rest).drop separator.length
      if before then chunk.reverse :: chunksAt separator before fuel separator.reverse behind
      else (separator.reverse ++ chunk).reverse :: chunksAt separator before fuel [] behind
    else chunksAt separator before fuel (c :: chunk) rest

/-- **Nothing is lost** when a text is split at a separator, on whichever side of the separator. -/
theorem flatten_chunksAt {separator : List Char} (hseparator : separator ≠ []) (before : Bool)
    {fuel : Nat} {chunk text : List Char} (hfuel : text.length < fuel) :
    (chunksAt separator before fuel chunk text).flatten = chunk.reverse ++ text := by
  induction fuel generalizing chunk text with
  | zero => omega
  | succ fuel ih =>
    cases text with
    | nil =>
      rw [chunksAt, List.append_nil]
      split
      next hempty => simp [List.isEmpty_iff.1 hempty]
      next => simp
      simp
    | cons c rest =>
      have hlength : 0 < separator.length := List.length_pos_iff.2 hseparator
      rw [chunksAt]
      split
      next hfound =>
        have hsplit : separator ++ (c :: rest).drop separator.length = c :: rest :=
          List.prefix_iff_eq_append.1 (List.isPrefixOf_iff_prefix.1 hfound)
        have hshort : ((c :: rest).drop separator.length).length < fuel := by
          simp only [List.length_drop, List.length_cons] at hfuel ⊢
          omega
        dsimp only
        split
        next =>
          rw [List.flatten_cons, ih hshort, List.reverse_reverse, hsplit]
        next =>
          rw [List.flatten_cons, ih hshort, List.reverse_append, List.reverse_reverse,
            List.reverse_nil, List.nil_append, List.append_assoc, hsplit]
      next =>
        rw [ih (Nat.lt_of_succ_lt_succ hfuel), List.reverse_cons, List.append_assoc]
        rfl

/-- The records of a text from the last to the first.  Separators are looked for from the end on, in
the text read backwards. -/
def recordsBackwards (separator : List Char) (before : Bool) (text : List Char) : List Char :=
  (chunksAt separator.reverse (!before) (text.length + 1) [] text.reverse).flatMap List.reverse

/-- The records of files from the last to the first: `-s` names what separates them, and with `-b`
it belongs to the record behind it. -/
def tac (task : Task) : Report :=
  let table : OptionTable := ⟨"b", "s", [("before", 'b'), ("separator", 's')]⟩
  task.withOptions "tac" 1 table fun options paths =>
    let complaint (path : String) (fault : StoreFault) : String :=
      s!"tac: failed to open '{path}' for reading: {fault.message}"
    let separator := ((optionValue? options 's').getD "\n").toList
    let separator := if separator.isEmpty then ['\x00'] else separator
    task.throughEach paths complaint (recordsBackwards separator (hasOption options 'b'))

end Shell

end TreeOutline
