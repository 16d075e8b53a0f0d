import TreeOutline.Shell.Pattern
import TreeOutline.Shell.Tool.Basic

namespace TreeOutline

/-!
# Tools that compare and compute

* `Shell.cmp` — whether files are equal, and where they differ first
  (`Shell.firstDifference_eq_some_iff`).
* `Shell.expr` — the value of an expression that is written in words.
* `Shell.dd` — a part of the input, in blocks.
* `Shell.sleep` — nothing, after a while.
-/

namespace Shell

/-! ### Files -/

/-- The number of the first byte in which two texts differ, and that of its line; `none` where one
ends before they differ. -/
def firstDifference : (byte line : Nat) → List Char → List Char → Option (Nat × Nat)
  | byte, line, a :: s, b :: t =>
    if a ≠ b then some (byte, line)
    else firstDifference (byte + 1) (if a = '\n' then line + 1 else line) s t
  | _, _, _, _ => none

/-- Texts differ nowhere exactly when one of them begins the other. -/
theorem firstDifference_eq_none_iff {byte line : Nat} {s t : List Char} :
    firstDifference byte line s t = none ↔ s <+: t ∨ t <+: s := by
  induction s generalizing byte line t with
  | nil => simp [firstDifference]
  | cons a s ih =>
    cases t with
    | nil => simp [firstDifference]
    | cons b t =>
      rw [firstDifference]
      split
      next hne => simp [List.cons_prefix_cons, hne, Ne.symm hne]
      next heq =>
        obtain rfl := Classical.not_not.1 heq
        simp [List.cons_prefix_cons, ih]

/-- **The first difference** stands behind what both texts begin with, whose bytes and lines are
counted. -/
theorem firstDifference_eq_some_iff {byte line byte' line' : Nat} {s t : List Char} :
    firstDifference byte line s t = some (byte', line') ↔
      ∃ common a b s' t', s = common ++ a :: s' ∧ t = common ++ b :: t' ∧ a ≠ b ∧
        byte' = byte + common.length ∧ line' = line + common.count '\n' := by
  induction s generalizing byte line t with
  | nil => simp [firstDifference]
  | cons a s ih =>
    cases t with
    | nil => simp [firstDifference]
    | cons b t =>
      rw [firstDifference]
      split
      next hne =>
        constructor
        · intro h
          cases h
          exact ⟨[], a, b, s, t, rfl, rfl, hne, rfl, rfl⟩
        · rintro ⟨common, a', b', s', t', hs, ht, -, rfl, rfl⟩
          cases common with
          | nil => rfl
          | cons c common =>
            obtain ⟨rfl, -⟩ := List.cons.inj hs
            exact absurd (List.cons.inj ht).1.symm hne
      next heq =>
        obtain rfl := Classical.not_not.1 heq
        rw [ih]
        constructor
        · rintro ⟨common, a', b', s', t', rfl, rfl, hne, rfl, rfl⟩
          refine ⟨a :: common, a', b', s', t', rfl, rfl, hne, ?_, ?_⟩
          · simp; omega
          · rw [List.count_cons]; grind
        · rintro ⟨common, a', b', s', t', hs, ht, hne, rfl, rfl⟩
          cases common with
          | nil => exact absurd ((List.cons.inj hs).1.symm.trans (List.cons.inj ht).1) hne
          | cons c common =>
            obtain ⟨rfl, rfl⟩ := List.cons.inj hs
            obtain ⟨-, rfl⟩ := List.cons.inj ht
            refine ⟨common, a', b', s', t', rfl, rfl, hne, ?_, ?_⟩
            · simp; omega
            · rw [List.count_cons]; grind

/-- A byte as it is shown beside its number. -/
def shownByte (c : Char) : List Char :=
  let plain (n : Nat) : List Char :=
    if n < 32 then ['^', Char.ofNat (n + 64)] else if n = 127 then ['^', '?'] else [Char.ofNat n]
  if c.toNat < 128 then plain c.toNat else ['M', '-'] ++ plain (c.toNat - 128)

/-- A byte as an octal number in three columns, with `-b` also as it is shown. -/
def numberedByte (shown : Bool) (c : Char) : List Char :=
  let digits := Nat.toDigits 8 c.toNat
  padLeft 3 digits ++ if shown then ' ' :: shownByte c else []

/-- Compares two files, from a byte on that `-i` or words behind them count and as far as `-n` says;
`-s` says nothing, `-l` tells all bytes that differ, and `-b` shows them. -/
def cmp (task : Task) : Report :=
  let table : OptionTable := ⟨"slb", "ni", [("silent", 's'), ("quiet", 's'), ("verbose", 'l'),
    ("print-bytes", 'b'), ("bytes", 'n'), ("ignore-initial", 'i')]⟩
  task.withOptions "cmp" 2 table fun options paths =>
    let has := hasOption options
    let (first, second) := (paths.headD "-", (paths[1]?).getD "-")
    let skips := ((optionValue? options 'i').getD "0").splitOn ":"
    let skip (i : Nat) : Nat :=
      (((paths[i + 2]?).getD (skips.getD i (skips.headD "0"))).toNat?).getD 0
    let cut (i : Nat) (text : List Char) : List Char :=
      let text := text.drop (skip i)
      match (optionValue? options 'n').bind natural? with
      | some n => text.take n
      | none => text
    let differ (text : String) (onError : Bool) : Report :=
      let text := if has 's' then [] else (text ++ "\n").toList
      if onError then ⟨[], text, 1, []⟩ else ⟨text, [], 1, []⟩
    match paths, task.contents? first, task.contents? second with
    | [], _, _ => .misused task "cmp" 2 "missing operand after 'cmp'"
    | _, none, _ => .complaining task 2 (task.missingOf "cmp" first)
    | _, _, none => .complaining task 2 (task.missingOf "cmp" second)
    | _, some s, some t =>
      let (s, t) := (cut 0 s, cut 1 t)
      let (short, text) := if s.length < t.length then (first, s) else (second, t)
      let finish := if text.isEmpty then s!"cmp: EOF on {short} which is empty"
        else
          let lines := text.count '\n'
          s!"cmp: EOF on {short} after byte {text.length}" ++
            if has 'l' then "" else if text.getLast? = some '\n' then s!", line {lines}"
            else s!", in line {lines + 1}"
      if s = t then .quiet { task with input := [] } 0
      else if has 'l' ∧ ¬ has 's' then
        let sizes := [(first, s), (second, t)].filterMap fun (path, text) =>
          if path ≠ "-" ∨ task.inputIsFile then some text.length else none
        let width := match sizes with
          | [] => 19
          | size :: sizes => (toString (sizes.foldl min size)).length
        let rows := (s.zip t).zipIdx.flatMap fun ((a, b), i) =>
          if a = b then []
          else
            let left := numberedByte (has 'b') a
            padNumber width (i + 1) ++ ' ' :: left ++
              List.replicate (if has 'b' then 8 - left.length else 0) ' ' ++
              ' ' :: numberedByte (has 'b') b ++ ['\n']
        ⟨rows, if s.length = t.length then [] else (finish ++ "\n").toList, 1, []⟩
      else
        match firstDifference 1 1 s t with
        | some (byte, line) =>
          let shown (text : List Char) : String :=
            String.ofList (numberedByte true (text.getD (byte - 1) ' '))
          differ (if has 'b' then
              s!"{first} {second} differ: byte {byte}, line {line} is {shown s} {shown t}"
            else s!"{first} {second} differ: char {byte}, line {line}") false
        | none => differ finish true

/-! ### Expressions -/

/-- Why an expression in words has no value. -/
inductive ExprFault where
  | missing (word : String)
  | unexpected (word : String)
  | notANumber
  | divisionByZero
  | badPattern (fault : PatternFault)
deriving DecidableEq, Repr

/-- The wording of a fault. -/
def ExprFault.message : ExprFault → String
  | .missing word => s!"syntax error: missing argument after '{word}'"
  | .unexpected word => s!"syntax error: unexpected argument '{word}'"
  | .notANumber => "non-integer argument"
  | .divisionByZero => "division by zero"
  | .badPattern fault => fault.message

/-- Whether a value counts as nothing. -/
def isNothing (value : String) : Bool :=
  value = "" || (decimal? value).any (· = 0)

/-- What a pattern matches at the start of a text: its first group if it has one, and else the
number of bytes. -/
def matchedAtStart (text pattern : String) : Except ExprFault String :=
  match Pattern.read .basic pattern.toList with
  | .error fault => .error (.badPattern fault)
  | .ok pattern =>
    let grouped := 0 < pattern.groupCount
    match pattern.longest? id ⟨[], text.toList, []⟩ with
    | none => .ok (if grouped then "" else "0")
    | some finish =>
      if grouped then .ok (String.ofList ((finish.groups.lookup 1).getD []))
      else .ok (toString finish.before.length)

/-- The value of an operator between two values. -/
def exprOperation (operator left right : String) : Except ExprFault String :=
  let numbers (f : Int → Int → Except ExprFault Int) : Except ExprFault String :=
    match decimal? left, decimal? right with
    | some a, some b => (f a b).map toString
    | _, _ => .error .notANumber
  let compare (p : Ordering → Bool) : Except ExprFault String :=
    let order := match decimal? left, decimal? right with
      | some a, some b => Ord.compare a b
      | _, _ => Ord.compare left right
    .ok (if p order then "1" else "0")
  match operator with
  | "|" => .ok (if isNothing left then (if isNothing right then "0" else right) else left)
  | "&" => .ok (if isNothing left || isNothing right then "0" else left)
  | "<" => compare (· == .lt)
  | "<=" => compare (· != .gt)
  | "=" | "==" => compare (· == .eq)
  | "!=" => compare (· != .eq)
  | ">=" => compare (· != .lt)
  | ">" => compare (· == .gt)
  | "+" => numbers fun a b => .ok (a + b)
  | "-" => numbers fun a b => .ok (a - b)
  | "*" => numbers fun a b => .ok (a * b)
  | "/" => numbers fun a b => if b = 0 then .error .divisionByZero else .ok (a.tdiv b)
  | "%" => numbers fun a b => if b = 0 then .error .divisionByZero else .ok (a.tmod b)
  | _ => matchedAtStart left right

/-- The operators by how tightly they bind, loosest first. -/
def exprLevels : List (List String) :=
  [["|"], ["&"], ["<", "<=", "=", "==", "!=", ">=", ">"], ["+", "-"], ["*", "/", "%"], [":"]]

mutual

/-- The value of an expression with operators of the levels given; `last` is the word in front. -/
def readLevel : (fuel : Nat) → (levels : List (List String)) → (last : String) → List String →
    Except ExprFault (String × List String)
  | 0, _, last, _ => .error (.missing last)
  | fuel + 1, [], last, words => readOperand fuel last words
  | fuel + 1, level :: levels, last, words => do
    let (first, rest) ← readLevel fuel levels last words
    readOperations fuel level levels first rest

/-- The value of the operations behind a first value. -/
def readOperations : (fuel : Nat) → (level : List String) → (levels : List (List String)) →
    (first : String) → List String → Except ExprFault (String × List String)
  | 0, _, _, first, words => .ok (first, words)
  | fuel + 1, level, levels, first, words =>
    match words with
    | [] => .ok (first, [])
    | operator :: rest =>
      if operator ∉ level then .ok (first, words)
      else do
        let (second, rest) ← readLevel fuel levels operator rest
        let value ← exprOperation operator first second
        readOperations fuel level levels value rest

/-- A word, a function of words, or an expression in parentheses. -/
def readOperand : (fuel : Nat) → (last : String) → List String →
    Except ExprFault (String × List String)
  | 0, last, _ => .error (.missing last)
  | _ + 1, last, [] => .error (.missing last)
  | fuel + 1, _, word :: rest =>
    match word, rest with
    | "+", text :: rest => .ok (text, rest)
    | "+", [] | "length", [] | "match", [] | "substr", [] | "index", [] => .error (.missing word)
    | "match", [last] | "index", [last] | "substr", [last] | "substr", [_, last] =>
      .error (.missing last)
    | "length", text :: rest => .ok (toString text.length, rest)
    | "match", text :: pattern :: rest => (matchedAtStart text pattern).map fun v => (v, rest)
    | "substr", text :: first :: count :: rest =>
      match natural? first, natural? count with
      | some first, some count =>
        let chars := if first = 0 then [] else (text.toList.drop (first - 1)).take count
        .ok (String.ofList chars, rest)
      | _, _ => .ok ("", rest)
    | "index", text :: set :: rest =>
      let place := text.toList.findIdx? set.toList.contains
      .ok (toString ((place.map (· + 1)).getD 0), rest)
    | "(", rest => do
      let (value, rest) ← readLevel fuel exprLevels "(" rest
      match rest with
      | ")" :: rest => .ok (value, rest)
      | _ => .error (.missing value)
    | word, rest => .ok (word, rest)

end

/-- Prints the value of an expression; the status tells whether it counts as nothing. -/
def expr (task : Task) : Report :=
  if task.words.isEmpty then .misused task "expr" 2 "missing operand"
  else
    match readLevel (10 * task.words.length + 20) exprLevels "" task.words with
    | .error fault => .complaining task 2 s!"expr: {fault.message}"
    | .ok (_, word :: _) => .complaining task 2 s!"expr: {(ExprFault.unexpected word).message}"
    | .ok (value, []) =>
      { Report.answering task (value ++ "\n") with status := if isNothing value then 1 else 0 }

/-! ### Other tools -/

/-- Prints the input, or so many blocks of it behind others that are skipped. -/
def dd (task : Task) : Report :=
  let value (name : String) : Option String := task.words.findSome? fun word =>
    if word.startsWith (name ++ "=") then some (word.drop (name.length + 1)).toString else none
  let number (name : String) (usual : Nat) : Nat :=
    ((value name).bind fun text => (signedByteCount? text)).getD usual
  let size := number "bs" (number "ibs" 512)
  let input := (task.contents? ((value "if").getD "-")).getD []
  let skipped := input.drop (size * number "skip" 0)
  let text := match value "count" with
    | some _ => skipped.take (size * number "count" 0)
    | none => skipped
  let left := match value "count" with
    | some _ => skipped.drop text.length
    | none => []
  ⟨text, [], 0, if (value "if").isSome then task.input else left⟩
where
  /-- A number with a unit. -/
  signedByteCount? (text : String) : Option Nat :=
    match leadingNat text.toList with
    | (some n, []) => some n
    | (some n, ['k']) | (some n, ['K']) => some (1024 * n)
    | (some n, ['M']) => some (1024 * 1024 * n)
    | _ => none

/-- Waits for some seconds, which takes no time here. -/
def sleep (task : Task) : Report :=
  let isTime (word : String) : Bool :=
    let chars := match word.toList.reverse with
      | unit :: rest => if unit ∈ ['s', 'm', 'h', 'd'] then rest else unit :: rest
      | [] => []
    !chars.isEmpty && chars.all fun c => c.isDigit || c == '.'
  match task.words, task.words.find? (!isTime ·) with
  | [], _ => .misused task "sleep" 1 "missing operand"
  | _, some word => .misused task "sleep" 1 s!"invalid time interval '{word}'"
  | _, none => .quiet task 0

end Shell

end TreeOutline
