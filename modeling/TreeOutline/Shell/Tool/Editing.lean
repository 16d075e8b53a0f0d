import TreeOutline.Shell.Pattern
import TreeOutline.Shell.Tool.Order
import TreeOutline.Steps

namespace TreeOutline

/-!
# Editing lines

* `Shell.Edit` — what an editing script does to a line; `Shell.readEdits` reads one.
* `Shell.EditFault` — why one cannot be read; `EditFault.message` is its wording.
* `Shell.substitute` — a text with matches replaced; where nothing is, it stays as it is
  (`Shell.substitute_eq_rest`).
* `Shell.Editing` — the lines while they are edited.
* `Shell.sed` — files with an editing script applied to each line.
-/

namespace Shell

/-- A pattern that is looked for, whatever the case of letters or not. -/
structure Sought where
  pattern : Pattern
  ignoreCase : Bool

/-- A line that an edit is meant for. -/
inductive Address where
  | line (number : Nat)
  | lastLine
  /-- A line with a match of a pattern; without one, of the pattern that was looked for last. -/
  | matching (sought : Option Sought)
  /-- Every so many lines from one on. -/
  | every (first step : Nat)
  /-- So many lines behind the one where a range begins. -/
  | behind (count : Nat)
  /-- The next line whose number is a multiple. -/
  | multiple (count : Nat)

/-- A piece of what is put in the place of a match. -/
inductive Piece where
  | text (c : Char)
  /-- What a group has matched; the whole match is group zero. -/
  | group (number : Nat)
  /-- From here on, or for one letter, capitals or small letters. -/
  | casing (upper : Option Bool)
  | caseOnce (upper : Bool)

/-- When a jump is made: always, or depending on whether a replacement has been. -/
inductive JumpKind where
  | always
  | ifReplaced
  | unlessReplaced
deriving DecidableEq, Repr

/-- A replacement of matches by pieces: all of them or only one, from which one on, and whether the
line is printed behind it or written into a file.  Without a pattern the one that was looked for
last is meant. -/
structure Replacement where
  sought : Option Sought
  pieces : List Piece
  everywhere : Bool
  occurrence : Nat
  print : Bool
  file : Option String

/-- What is done to a line. -/
inductive Action where
  | replace (replacement : Replacement)
  | map (source target : List (List Char))
  | delete (firstOnly : Bool)
  | print (firstOnly : Bool)
  | number
  | quit (silent : Bool) (status : Nat)
  | append (text : List Char)
  | insert (text : List Char)
  | change (text : List Char)
  | next (joined : Bool)
  | keep (joined : Bool)
  | fetch (joined : Bool)
  | exchange
  | clear
  | insertFile (path : String)
  | insertLine (path : String)
  | writeFile (path : String) (firstOnly : Bool)
  | fileName
  /-- Shows the line with what cannot be seen, in pieces of a length. -/
  | list (length : Option Nat)
  | jump (kind : JumpKind) (label : String)
  | label (name : String)
  /-- The edits that follow, as many as are counted, belong together. -/
  | block (size : Nat)

/-- An action for the lines at an address or from one to another, or for all others; its number
tells its ranges from those of other edits. -/
structure Edit where
  number : Nat
  addresses : Option (Address × Option Address)
  others : Bool
  action : Action

/-! ### Faults -/

/-- Why an editing script cannot be read. -/
inductive EditFault where
  | unknownCommand (c : Char)
  | missingCommand
  | unterminated (c : Char)
  | unterminatedAddress
  | unknownOption
  | repeatedOption (c : Char)
  | zeroOccurrence
  | repeatedOccurrence
  | extraCharacters
  | unexpectedComma
  | unexpectedBrace
  | unmatchedBrace
  | repeatedNot
  | zeroLine
  | differentLengths
  | missingText
  | missingFile
  | missingLabel
  | newerVersion
  | flagsWithoutPattern
  | noEarlierPattern
  | badGroup (number : Nat)
  | badPattern (fault : PatternFault)
deriving DecidableEq, Repr

/-- The wording of a fault. -/
def EditFault.message : EditFault → String
  | .unknownCommand c => s!"unknown command: \x60{c}'"
  | .missingCommand => "missing command"
  | .unterminated c => s!"unterminated \x60{c}' command"
  | .unterminatedAddress => "unterminated address regex"
  | .unknownOption => "unknown option to \x60s'"
  | .repeatedOption c => s!"multiple \x60{c}' options to \x60s' command"
  | .repeatedOccurrence => "multiple number options to \x60s' command"
  | .zeroOccurrence => "number option to \x60s' command may not be zero"
  | .extraCharacters => "extra characters after command"
  | .unexpectedComma => "unexpected \x60,'"
  | .unexpectedBrace => "unexpected \x60\x7d'"
  | .unmatchedBrace => "unmatched \x60\x7b'"
  | .repeatedNot => "multiple \x60!'s"
  | .zeroLine => "invalid usage of line address 0"
  | .differentLengths => "strings for \x60y' command are different lengths"
  | .missingText => "expected \\ after \x60a', \x60c' or \x60i'"
  | .missingFile => "missing filename in r/R/w/W commands"
  | .missingLabel => "\":\" lacks a label"
  | .newerVersion => "expected newer version of sed"
  | .flagsWithoutPattern => "cannot specify modifiers on empty regexp"
  | .noEarlierPattern => "no previous regular expression"
  | .badGroup number => "invalid reference \\" ++ toString number ++ " on \x60s' command's RHS"
  | .badPattern fault => fault.message

/-- A fault, and what is left of the script where it is found. -/
abbrev EditReading := Except (EditFault × List Char)

/-! ### Reading edits -/

/-- The letters up to a delimiter outside of brackets; behind a backslash it counts as itself. -/
def delimited? (delimiter : Char) (brackets : Bool) : (fuel : Nat) → List Char →
    Option (List Char × List Char)
  | 0, _ => none
  | fuel + 1, chars =>
    match chars with
    | [] => none
    | '\\' :: c :: rest =>
      (delimited? delimiter brackets fuel rest).map fun (text, rest) =>
        (if c = delimiter then c :: text else '\\' :: c :: text, rest)
    | c :: rest =>
      if c = delimiter then some ([], rest)
      else if c = '[' ∧ brackets then
        let front := match rest with
          | '^' :: ']' :: _ => rest.take 2
          | '^' :: _ | ']' :: _ => rest.take 1
          | _ => []
        let set := front ++ ((rest.drop front.length).takeWhile (· ≠ ']'))
        match rest.drop set.length with
        | [] => none
        | _ :: rest =>
          (delimited? delimiter brackets fuel rest).map fun (text, rest) =>
            ('[' :: set ++ ']' :: text, rest)
      else (delimited? delimiter brackets fuel rest).map fun (text, rest) => (c :: text, rest)

/-- Skips blanks, ends of lines and semicolons. -/
def skipSeparators (chars : List Char) : List Char :=
  chars.dropWhile fun c => c == ' ' || c == '\t' || c == '\n' || c == ';'

/-- The character that a letter behind a backslash stands for, or one with a number, and what
follows. -/
def escapedLetter? : List Char → Option (Char × List Char)
  | 'a' :: rest => some ('\x07', rest)
  | 'f' :: rest => some ('\x0c', rest)
  | 'n' :: rest => some ('\n', rest)
  | 'r' :: rest => some ('\r', rest)
  | 't' :: rest => some ('\t', rest)
  | 'v' :: rest => some ('\x0b', rest)
  | 'c' :: c :: rest => some (Char.ofNat (c.toUpper.toNat ^^^ 0x40), rest)
  | 'd' :: rest => numbered 10 Char.isDigit 3 rest
  | 'o' :: rest => numbered 8 isOctal 3 rest
  | 'x' :: rest => numbered 16 isHexDigit 2 rest
  | _ => none
where
  /-- The character with a number of at most so many digits. -/
  numbered (base : Nat) (p : Char → Bool) (most : Nat) (rest : List Char) :
      Option (Char × List Char) :=
    let digits := (rest.take most).takeWhile p
    if digits.isEmpty then none
    else some (Char.ofNat (digits.foldl (fun n c => base * n + digitValue c) 0 % 256),
      rest.drop digits.length)

/-- A pattern with the characters that stand for others in the place of their names. -/
def unescaped : (fuel : Nat) → List Char → List Char
  | 0, chars => chars
  | fuel + 1, chars =>
    match chars with
    | '\\' :: rest =>
      match escapedLetter? rest, rest with
      | some (c, rest), _ => c :: unescaped fuel rest
      | none, c :: rest => '\\' :: c :: unescaped fuel rest
      | none, [] => ['\\']
    | c :: rest => c :: unescaped fuel rest
    | [] => []

/-- A pattern without a backslash has no names in it. -/
theorem unescaped_of_not_mem {fuel : Nat} {chars : List Char} (h : '\\' ∉ chars) :
    unescaped fuel chars = chars := by
  induction chars generalizing fuel with
  | nil => cases fuel <;> rfl
  | cons c rest ih =>
    cases fuel with
    | zero => rfl
    | succ fuel =>
      have hc : c ≠ '\\' := fun heq => h (heq ▸ List.mem_cons_self)
      rw [unescaped, ih fun hmem => h (List.mem_cons_of_mem c hmem)]
      exact fun heq => absurd heq hc

/-- A pattern with its flags, faults in which count where the text behind it begins. -/
def readSought (extended ignoreCase byLines : Bool) (text rest : List Char) :
    EditReading (Option Sought) :=
  if text.isEmpty then
    if ignoreCase ∨ byLines then .error (.flagsWithoutPattern, rest) else .ok none
  else
    match Pattern.read (if extended then .extended else .basic) (unescaped text.length text) with
    | .ok pattern => .ok (some ⟨if byLines then pattern.byLines else pattern, ignoreCase⟩)
    | .error fault => .error (.badPattern fault, rest)

/-- An address at the start, if there is one. -/
def readAddress (extended : Bool) (chars : List Char) : EditReading (Option Address × List Char) :=
  let pattern (delimiter : Char) (rest : List Char) : EditReading (Option Address × List Char) :=
    match delimited? delimiter true (rest.length + 1) rest with
    | none => .error (.unterminatedAddress, [])
    | some (text, rest) => do
      let flags := rest.takeWhile fun c => c == 'I' || c == 'M'
      let sought ← readSought extended (flags.contains 'I') (flags.contains 'M') text rest
      .ok (some (.matching sought), rest.drop flags.length)
  match chars with
  | '$' :: rest => .ok (some .lastLine, rest)
  | '/' :: rest => pattern '/' rest
  | '\\' :: delimiter :: rest => pattern delimiter rest
  -- these two make sense only as a second address, so without a number there is none
  | '+' :: rest =>
    match leadingNat rest with
    | (some n, rest) => .ok (some (.behind n), rest)
    | (none, _) => .ok (none, chars)
  | '~' :: rest =>
    match leadingNat rest with
    | (some n, rest) => .ok (some (.multiple n), rest)
    | (none, _) => .ok (none, chars)
  | chars =>
    match leadingNat chars with
    | (some first, '~' :: rest) =>
      let (step, rest) := leadingNat rest
      .ok (some (.every first (step.getD 0)), rest)
    | (n, rest) => .ok (n.map .line, rest)

/-- The piece that a letter behind a backslash stands for. -/
def letterPiece : Char → Piece
  | 'U' => .casing (some true)
  | 'L' => .casing (some false)
  | 'E' => .casing none
  | 'u' => .caseOnce true
  | 'l' => .caseOnce false
  | c => if c.isDigit then .group (c.toNat - '0'.toNat) else .text c

/-- The pieces of a replacement. -/
def pieces : (fuel : Nat) → List Char → List Piece
  | 0, _ => []
  | fuel + 1, chars =>
    match chars with
    | [] => []
    | '&' :: rest => .group 0 :: pieces fuel rest
    | '\\' :: c :: rest =>
      match escapedLetter? (c :: rest) with
      | some (c, rest) => .text c :: pieces fuel rest
      | none => letterPiece c :: pieces fuel rest
    | c :: rest => .text c :: pieces fuel rest

/-- The flags behind a replacement. -/
structure Flags where
  everywhere : Bool
  print : Bool
  ignoreCase : Bool
  byLines : Bool
  occurrence : Option Nat
  file : Option String

/-- The name of a file behind a letter, which goes on up to the end of the line. -/
def namedFile (chars : List Char) : String × List Char :=
  let rest := skipSpaces chars
  let name := rest.takeWhile (· ≠ '\n')
  (String.ofList name, rest.drop name.length)

/-- Reads flags. -/
def readFlags : (fuel : Nat) → Flags → List Char → EditReading (Flags × List Char)
  | 0, flags, chars => .ok (flags, chars)
  | fuel + 1, flags, chars =>
    match chars with
    | ' ' :: rest => readFlags fuel flags rest
    | 'g' :: rest =>
      if flags.everywhere then .error (.repeatedOption 'g', rest)
      else readFlags fuel { flags with everywhere := true } rest
    | 'p' :: rest =>
      if flags.print then .error (.repeatedOption 'p', rest)
      else readFlags fuel { flags with print := true } rest
    | 'i' :: rest | 'I' :: rest => readFlags fuel { flags with ignoreCase := true } rest
    | 'm' :: rest | 'M' :: rest => readFlags fuel { flags with byLines := true } rest
    | 'w' :: rest =>
      let (name, rest) := namedFile rest
      if name = "" then .error (.missingFile, rest)
      else .ok ({ flags with file := some name }, rest)
    | chars =>
      match leadingNat chars, flags.occurrence with
      | (none, _), _ => .ok (flags, chars)
      | (some 0, rest), _ => .error (.zeroOccurrence, rest)
      | (some _, rest), some _ => .error (.repeatedOccurrence, rest)
      | (some n, rest), none => readFlags fuel { flags with occurrence := some n } rest

/-- A replacement behind its letter. -/
def readReplacement (extended : Bool) (chars : List Char) : EditReading (Action × List Char) := do
  match chars with
  | [] => .error (.unterminated 's', [])
  | delimiter :: rest =>
    let fuel := rest.length + 1
    match delimited? delimiter true fuel rest with
    | none => .error (.unterminated 's', [])
    | some (text, rest) =>
      match delimited? delimiter false fuel rest with
      | none => .error (.unterminated 's', [])
      | some (target, rest) => do
        let (flags, rest) ← readFlags fuel ⟨false, false, false, false, none, none⟩ rest
        match (skipSpaces rest).head? with
        | some c =>
          if c ∉ [';', '\n', '\x7d', '#'] then .error (.unknownOption, (skipSpaces rest).drop 1)
        | none => pure ()
        let sought ← readSought extended flags.ignoreCase flags.byLines text rest
        let pieces := pieces (target.length + 1) target
        -- an empty pattern stands for an earlier one, whose groups are not known yet
        let tooHigh := sought.bind fun sought => pieces.findSome? fun
          | .group number => if sought.pattern.groupCount < number then some number else none
          | _ => none
        match tooHigh with
        | some number => .error (.badGroup number, rest)
        | none => .ok (.replace {
            sought
            pieces
            everywhere := flags.everywhere
            occurrence := flags.occurrence.getD 1
            print := flags.print
            file := flags.file }, rest)

/-- The letters of a list for letter-by-letter replacement. -/
def mapLetters (chars : List Char) : List (List Char) :=
  unmask (letters chars)
where
  /-- Letters behind a backslash. -/
  unmask : List (List Char) → List (List Char)
    | ['\\'] :: ['n'] :: rest => ['\n'] :: unmask rest
    | ['\\'] :: ['t'] :: rest => ['\t'] :: unmask rest
    | ['\\'] :: c :: rest => c :: unmask rest
    | c :: rest => c :: unmask rest
    | [] => []

/-- A letter-by-letter replacement behind its letter. -/
def readMap (chars : List Char) : EditReading (Action × List Char) :=
  match chars with
  | [] => .error (.unterminated 'y', [])
  | delimiter :: rest =>
    match delimited? delimiter false (rest.length + 1) rest with
    | none => .error (.unterminated 'y', [])
    | some (source, rest) =>
      match delimited? delimiter false (rest.length + 1) rest with
      | none => .error (.unterminated 'y', [])
      | some (target, rest) =>
        let (source, target) := (mapLetters source, mapLetters target)
        if source.length = target.length then .ok (.map source target, rest)
        else .error (.differentLengths, rest)

/-- The text behind the letter of an edit that puts text in; a backslash joins lines. -/
def readText (chars : List Char) : EditReading (List Char × List Char) :=
  match skipSpaces chars with
  | [] => .error (.missingText, [])
  | '\\' :: '\n' :: rest => .ok (body rest)
  | '\\' :: rest => .ok (body (skipSpaces rest))
  | rest => .ok (body rest)
where
  /-- The lines of the text. -/
  body : List Char → List Char × List Char
    | [] => ([], [])
    | '\\' :: c :: rest => let (text, rest) := body rest; (c :: text, rest)
    | '\n' :: rest => ([], rest)
    | c :: rest => let (text, rest) := body rest; (c :: text, rest)

/-- An action behind its addresses.  A block stands for its opening brace. -/
def readAction (extended : Bool) (letter : Char) (rest : List Char) :
    EditReading (Action × List Char) :=
  let word : List Char × List Char :=
    let rest := skipSpaces rest
    let name := rest.takeWhile fun c => c ∉ [';', '\n', '\x7d']
    ((name.reverse.dropWhile (· = ' ')).reverse, rest.drop name.length)
  let withFile (action : String → Action) : EditReading (Action × List Char) :=
    let (name, behind) := namedFile rest
    if name = "" then .error (.missingFile, []) else .ok (action name, behind)
  let status : Nat × List Char :=
    let (n, rest) := leadingNat (skipSpaces rest)
    (n.getD 0, rest)
  let label (kind : JumpKind) : EditReading (Action × List Char) :=
    .ok (.jump kind (String.ofList word.1), word.2)
  match letter with
  | 's' => readReplacement extended rest
  | 'y' => readMap rest
  | 'd' => .ok (.delete false, rest)
  | 'D' => .ok (.delete true, rest)
  | 'p' => .ok (.print false, rest)
  | 'P' => .ok (.print true, rest)
  | '=' => .ok (.number, rest)
  | 'q' => .ok (.quit false status.1, status.2)
  | 'Q' => .ok (.quit true status.1, status.2)
  | 'n' => .ok (.next false, rest)
  | 'N' => .ok (.next true, rest)
  | 'h' => .ok (.keep false, rest)
  | 'H' => .ok (.keep true, rest)
  | 'g' => .ok (.fetch false, rest)
  | 'G' => .ok (.fetch true, rest)
  | 'x' => .ok (.exchange, rest)
  | 'z' => .ok (.clear, rest)
  -- the text took the line end along, and a command has to end in one
  | 'a' => do let (text, rest) ← readText rest; .ok (.append text, '\n' :: rest)
  | 'i' => do let (text, rest) ← readText rest; .ok (.insert text, '\n' :: rest)
  | 'c' => do let (text, rest) ← readText rest; .ok (.change text, '\n' :: rest)
  | 'r' => withFile .insertFile
  | 'R' => withFile .insertLine
  | 'w' => withFile (.writeFile · false)
  | 'W' => withFile (.writeFile · true)
  | 'F' => .ok (.fileName, rest)
  | 'l' =>
    let (length, rest) := leadingNat (skipSpaces rest)
    .ok (.list length, rest)
  | 'v' =>
    let (major, behind) := leadingNat word.1
    if 4 < major.getD 0 ∨ (major = some 4 ∧ 9 < ((leadingNat (behind.drop 1)).1).getD 0) then
      .error (.newerVersion, word.2)
    else .ok (.label "", word.2)
  | 'b' => label .always
  | 't' => label .ifReplaced
  | 'T' => label .unlessReplaced
  | ':' =>
    if word.1.isEmpty then .error (.missingLabel, rest)
    else .ok (.label (String.ofList word.1), word.2)
  | '\x7b' => .ok (.block 0, ';' :: rest)
  | '\x7d' => .error (.unexpectedBrace, rest)
  | letter => .error (.unknownCommand letter, rest)

/-- Reads edits up to the end, or up to the closing brace of a block. -/
def readEditsFrom (extended : Bool) : (fuel : Nat) → (inBlock : Bool) → List Char →
    EditReading (List Edit × List Char)
  | 0, _, chars => .ok ([], chars)
  | fuel + 1, inBlock, chars =>
    match skipSeparators chars, inBlock with
    | [], false => .ok ([], [])
    | [], true => .error (.unmatchedBrace, chars)
    | '\x7d' :: rest, true => .ok ([], rest)
    | '#' :: rest, inBlock => readEditsFrom extended fuel inBlock (rest.dropWhile (· ≠ '\n'))
    | chars, inBlock => do
      let (first, rest) ← readAddress extended chars
      let (second, rest) ← match first, skipSpaces rest with
        | some _, ',' :: rest => do
          let (second, behind) ← readAddress extended (skipSpaces rest)
          if second.isNone then .error (.unexpectedComma, behind.drop 1) else .ok (second, behind)
        | _, rest => .ok (none, rest)
      let isZero : Bool := match first with
        | some (.line 0) => true
        | _ => false
      -- line zero has a meaning only where the range may end in the first line
      let startsEarly : Bool := match second with
        | some (.matching ..) => true
        | _ => false
      if isZero ∧ ¬ startsEarly then .error (.zeroLine, rest.drop 1)
      let (others, rest) ← match skipSpaces rest with
        | '!' :: rest =>
          match skipSpaces rest with
          | '!' :: rest => .error (.repeatedNot, rest)
          | rest => .ok (true, rest)
        | rest => .ok (false, rest)
      match rest with
      | [] => .error (.missingCommand, [])
      | letter :: rest => do
        let (action, rest) ← readAction extended letter rest
        let rest := skipSpaces rest
        if rest.head?.any fun c => c ∉ [';', '\n', '\x7d', '#'] then
          .error (.extraCharacters, rest.drop 1)
        let addresses := first.map fun first => (first, second)
        match action with
        | .block _ => do
          let (inside, rest) ← readEditsFrom extended fuel true rest
          let (edits, rest) ← readEditsFrom extended fuel inBlock rest
          -- a block is its length and, behind it, its commands: a jump is then a place in one list
          .ok (⟨0, addresses, others, .block inside.length⟩ :: inside ++ edits, rest)
        | action => do
          let (edits, rest) ← readEditsFrom extended fuel inBlock rest
          .ok (⟨0, addresses, others, action⟩ :: edits, rest)

/-- Reads an editing script. -/
def readEdits (extended : Bool) (chars : List Char) : EditReading (List Edit) := do
  let (edits, _) ← readEditsFrom extended (2 * chars.length + 2) false chars
  .ok (edits.zipIdx.map fun (edit, i) => { edit with number := i })

/-- Each edit of a script has a number of its own, by which its ranges are told from others. -/
theorem number_of_readEdits {extended : Bool} {chars : List Char} {edits : List Edit}
    (h : readEdits extended chars = .ok edits) :
    edits.map (·.number) = List.range edits.length := by
  obtain ⟨⟨read, left⟩, -, h⟩ := exists_of_bind_eq_ok h
  cases h
  have hnumber : ((·.number) ∘ fun ((edit, i) : Edit × Nat) => { edit with number := i }) =
      Prod.snd := rfl
  rw [List.map_map, List.length_map, List.length_zipIdx, List.range_eq_range', hnumber,
    List.zipIdx_map_snd]

/-! ### Replacing -/

/-- A letter in the case asked for. -/
def casedLetter (upper : Option Bool) (c : Char) : Char :=
  match upper with
  | some true => c.toUpper
  | some false => c.toLower
  | none => c

/-- What is put in the place of a match. -/
def replaced (groups : List (Nat × List Char)) : (casing once : Option Bool) → List Piece →
    List Char
  | _, _, [] => []
  | casing, once, piece :: rest =>
    let letters (text : List Char) : List Char :=
      match once, text with
      | some upper, c :: text => casedLetter (some upper) c :: text.map (casedLetter casing)
      | _, text => text.map (casedLetter casing)
    match piece with
    | .text c => letters [c] ++ replaced groups casing none rest
    | .group number =>
      let text := (groups.lookup number).getD []
      letters text ++ replaced groups casing (if text.isEmpty then once else none) rest
    | .casing upper => replaced groups upper once rest
    | .caseOnce upper => replaced groups casing (some upper) rest

/-- Replaces the matches of a pattern from the given occurrence on, one or all of them.
`afterMatch` tells that a match ended here, so that an empty one right behind it does not count. -/
def substitute (fold : Char → Char) (pattern : Pattern) (pieces : List Piece) (everywhere : Bool) :
    (fuel occurrence : Nat) → (afterMatch : Bool) → Place → List Char × Bool
  | 0, _, _, place => (place.rest, false)
  | fuel + 1, occurrence, afterMatch, place =>
    match pattern.find? fold (place.rest.length + 1) { place with groups := [] } with
    | none => (place.rest, false)
    | some (first, finish) =>
      let front := first.since place
      let text := finish.since first
      let passLetter (occurrence : Nat) (place : Place) : List Char × Bool :=
        if place.rest.isEmpty then ([], false)
        else
          let (rest, changed) :=
            substitute fold pattern pieces everywhere fuel occurrence false place.next
          (firstLetter place.rest ++ rest, changed)
      if text.isEmpty ∧ afterMatch ∧ front.isEmpty then passLetter occurrence first
      else
        let counts := occurrence ≤ 1
        let target :=
          if counts then replaced ((0, text) :: finish.groups) none none pieces else text
        if counts ∧ ¬ everywhere then (front ++ target ++ finish.rest, true)
        else
          let (rest, changed) :=
            if text.isEmpty then passLetter (occurrence - 1) finish
            else substitute fold pattern pieces everywhere fuel (occurrence - 1) true finish
          (front ++ target ++ rest, counts || changed)

/-- A letter that is passed over stays as it is if what follows it does. -/
theorem passed_eq_rest {rest : List Char} {answer : List Char × Bool}
    (hanswer : answer.2 = false → answer.1 = rest.drop (firstLetter rest).length)
    (h : (if rest.isEmpty then ([], false)
      else (firstLetter rest ++ answer.1, answer.2)).2 = false) :
    (if rest.isEmpty then ([], false) else (firstLetter rest ++ answer.1, answer.2)).1 = rest := by
  split
  next hempty => exact (List.isEmpty_iff.1 hempty).symm
  next hfull =>
    rw [if_neg hfull] at h
    dsimp only at h ⊢
    rw [hanswer h]
    exact List.prefix_iff_eq_append.1 (firstLetter_isPrefix rest)

/-- **Where nothing is replaced the text stays as it is.** -/
theorem substitute_eq_rest {fold : Char → Char} {pattern : Pattern} {pieces : List Piece}
    {everywhere : Bool} {fuel occurrence : Nat} {afterMatch : Bool} {place : Place}
    (h : (substitute fold pattern pieces everywhere fuel occurrence afterMatch place).2 = false) :
    (substitute fold pattern pieces everywhere fuel occurrence afterMatch place).1 =
      place.rest := by
  induction fuel generalizing occurrence afterMatch place with
  | zero => rfl
  | succ fuel ih =>
    rw [substitute] at h ⊢
    split
    next => rfl
    next first finish hfind =>
      rw [hfind] at h
      obtain ⟨hfirst, hfinish, -⟩ := Pattern.reaches_of_find? hfind
      have hfront : first.since place ++ first.rest = place.rest := hfirst.since_append
      have htext := hfinish.since_append
      dsimp only at h ⊢
      split at h
      next hskip =>
        -- an empty match behind another one does not count
        rw [List.isEmpty_iff.1 hskip.2.2, List.nil_append] at hfront
        rw [if_pos hskip, ← hfront]
        exact passed_eq_rest ih h
      next hmatch =>
        rw [if_neg hmatch]
        by_cases hcounts : occurrence ≤ 1
        · -- a match that counts is replaced
          simp only [hcounts, true_and, decide_true, Bool.true_or] at h
          split at h <;> exact absurd h (by simp)
        · simp only [hcounts, false_and, if_false, decide_false, Bool.false_or] at h ⊢
          rw [← hfront, ← htext, List.append_assoc]
          congr 2
          split at h
          next hempty =>
            rw [if_pos hempty]
            exact passed_eq_rest ih h
          next hfull =>
            rw [if_neg hfull]
            exact ih h

/-! ### Applying edits -/

/-- How far a range of lines has come: it goes up to a line, or up to the first line from there on;
it goes up to a line that its end is an address of; or it does not begin again. -/
inductive RangeState where
  | upTo (last : Nat)
  | upToNext (last : Nat)
  | open'
  | closed
deriving DecidableEq, Repr

/-- Lines while they are edited. -/
structure Editing where
  /-- The number and text of the line, whether it has an end, and the file that it is from. -/
  number : Nat
  line : List Char
  hasEnd : Bool
  name : String
  /-- The lines that come behind it, with their ends, each with its file. -/
  coming : List (String × List Char)
  /-- The mark at the end of lines. -/
  mark : Char
  /-- What has been kept, and whether it has an end. -/
  kept : List Char
  keptEnd : Bool
  /-- What is printed, latest first, and what is still to come behind the line. -/
  printed : List (List Char)
  later : List (List Char)
  /-- Whether the text printed last lacks its end. -/
  endMissing : Bool
  replacedOnce : Bool
  /-- How far the ranges of edits have come. -/
  ranges : List (Nat × RangeState)
  /-- The pattern that was looked for last, and whether there should have been one. -/
  last : Option Sought
  lost : Bool
  store : Store
  /-- How many lines have been taken from files one by one. -/
  taken : List (String × Nat)
  /-- What has been written into files. -/
  written : List (String × List Char)

namespace Editing

/-- Prints text that may lack its end. -/
def print (e : Editing) (text : List Char) (hasEnd : Bool) : Editing :=
  let text := (if e.endMissing then [e.mark] else []) ++ text ++ (if hasEnd then [e.mark] else [])
  { e with printed := text :: e.printed, endMissing := !hasEnd }

/-- Prints the line. -/
def printLine (e : Editing) : Editing := e.print e.line e.hasEnd

/-- Prints what was to come behind the line. -/
def printLater (e : Editing) : Editing :=
  let e' := e.later.foldl (fun e text =>
    let front := if e.endMissing then [e.mark] else []
    { e with printed := (front ++ text) :: e.printed, endMissing := false }) e
  { e' with later := [] }

/-- Goes on to the next line, if there is one. -/
def advance? (e : Editing) : Option Editing :=
  match e.coming with
  | [] => none
  | (name, line) :: coming => some { e with
      number := e.number + 1, line := line.takeWhile (· ≠ e.mark), hasEnd := line.contains e.mark
      name, coming }

/-- Prints text that is not a line, with an end. -/
def say (e : Editing) (text : List Char) : Editing :=
  let front := if e.endMissing then [e.mark] else []
  { e with printed := (front ++ text ++ ['\n']) :: e.printed, endMissing := false }

/-- Writes a line into a file. -/
def write (e : Editing) (path : String) (text : List Char) : Editing :=
  if path = "/dev/stdout" then e.print text true
  else
    let old := (e.written.lookup path).getD []
    { e with written := (path, old ++ text ++ [e.mark]) :: e.written.filter (·.1 ≠ path) }

/-- The next line of a file that gives its lines one by one. -/
def takeLine (e : Editing) (path : String) : Editing :=
  let count := (e.taken.lookup path).getD 0
  match (linesOf ((e.store.contents? path).getD []))[count]? with
  | none => e
  | some line => { e with
      later := e.later ++ [withoutEnd line ++ ['\n']]
      taken := (path, count + 1) :: e.taken.filter (·.1 ≠ path) }

end Editing

/-- A byte as it is shown where nothing may stay hidden. -/
def listedByte (c : Char) : List Char :=
  let letters := [('\x07', 'a'), ('\x08', 'b'), ('\x0c', 'f'), ('\n', 'n'), ('\r', 'r'),
    ('\t', 't'), ('\x0b', 'v'), ('\\', '\\')]
  match letters.lookup c with
  | some letter => ['\\', letter]
  | none =>
    if ' ' ≤ c ∧ c ≤ '~' then [c]
    else
      let digits := Nat.toDigits 8 c.toNat
      '\\' :: List.replicate (3 - digits.length) '0' ++ digits

/-- A line with all that it holds, in pieces of a length that end with a backslash; at its end
stands a dollar sign. -/
def listedLine (length : Nat) (line : List Char) : List Char :=
  let (text, _) := line.foldl (fun ((text, column) : List Char × Nat) c =>
    let shown := listedByte c
    if 0 < length ∧ length ≤ column + shown.length then
      (shown.reverse ++ '\n' :: '\\' :: text, shown.length)
    else (shown.reverse ++ text, column + shown.length)) ([], 0)
  text.reverse ++ ['$']

/-- The pattern that is meant, which is then the last one looked for. -/
def Editing.seek (e : Editing) (sought : Option Sought) : Option Sought × Editing :=
  match sought, e.last with
  | some sought, _ => (some sought, { e with last := some sought })
  | none, some sought => (some sought, e)
  | none, none => (none, { e with lost := true })

/-- Whether an address is that of the line. -/
def Address.holds (e : Editing) : Address → Bool × Editing
  | .line number => (e.number == number, e)
  | .lastLine => (e.coming.isEmpty, e)
  | .matching sought =>
    match e.seek sought with
    | (some sought, e) =>
      ((sought.pattern.findIn? (caseFold sought.ignoreCase) e.line).isSome, e)
    | (none, e) => (false, e)
  | .every first step =>
    (if step = 0 then e.number == first else first ≤ e.number && (e.number - first) % step == 0, e)
  | .behind _ | .multiple _ => (false, e)

/-- Notes how far the range of an edit has come. -/
def Editing.note (e : Editing) (edit : Edit) (state : Option RangeState) : Editing :=
  { e with ranges := (state.map fun state => (edit.number, state)).toList ++
      e.ranges.filter (·.1 ≠ edit.number) }

/-- Whether an edit is meant for the line.  A range goes from the first address on up to the second
one; one that begins with a number does so only once. -/
def Edit.holds (edit : Edit) (e : Editing) : Bool × Editing :=
  match edit.addresses with
  | none => (true, e)
  | some (first, none) => first.holds e
  | some (first, some second) =>
    -- a range that begins at a line number does not begin again
    let ended : Option RangeState := match first with
      | .line _ => some .closed
      | _ => none
    let goOn (e : Editing) (state : RangeState) (last : Bool) : Editing :=
      e.note edit (if last then ended else some state)
    let inside (e : Editing) : Bool × Editing :=
      let (isLast, e) := second.holds e
      (true, goOn e .open' isLast)
    match e.ranges.lookup edit.number, first with
    | some .closed, _ => (false, e)
    | some (.upTo last), _ => (e.number ≤ last, goOn e (.upTo last) (last ≤ e.number))
    | some (.upToNext last), _ => (true, goOn e (.upToNext last) (last ≤ e.number))
    | some .open', _ | none, .line 0 => inside e
    -- the range is not open: it may begin here, and end in the same line
    | none, first =>
      let (begins, e) := match first with
        | .line number => (decide (number ≤ e.number), e)
        | first => first.holds e
      if ¬ begins then (false, e)
      else
        match second with
        | .line last =>
          let alone : Bool := match first with
            | .line number => e.number == number
            | _ => true
          (e.number ≤ last || alone, goOn e (.upTo last) (last ≤ e.number))
        | .behind count => (true, goOn e (.upToNext (e.number + count)) (count = 0))
        | .multiple count =>
          let last := if count = 0 then e.number else (e.number + count - 1) / count * count
          (true, goOn e (.upToNext last) (last ≤ e.number))
        | _ => (true, goOn e .open' e.coming.isEmpty)

/-- How a pass through the edits ends: at their end, without printing the line, without taking a new
one, or for good. -/
inductive PassEnd where
  | finished
  | dropped
  | again
  | quit (silent : Bool) (status : Nat)
deriving DecidableEq, Repr

/-- Applies edits to the line.  A jump leads to the edits behind a label of `program`. -/
def applyEdits (program : List Edit) (silent : Bool) (length : Nat) : (fuel : Nat) →
    List Edit → Editing → PassEnd × Editing
  | 0, _, e => (.finished, e)
  | _, [], e => (.finished, e)
  | fuel + 1, edit :: rest, e =>
    let goOn (e : Editing) := applyEdits program silent length fuel rest e
    let (holds, e) := edit.holds e
    let inRange := ((e.ranges.lookup edit.number).filter (· ≠ .closed)).isSome
    if e.lost then (.quit true 1, e)
    else if holds = edit.others then
      match edit.action with
      -- the commands of the block come next in the list and are left out
      | .block size => applyEdits program silent length fuel (rest.drop size) e
      | _ => goOn e
    else
      match edit.action with
      | .block _ | .label _ => goOn e
      | .replace r =>
        match e.seek r.sought with
        | (none, e) => (.quit true 1, e)
        | (some sought, e) =>
          let (line, changed) := substitute (caseFold sought.ignoreCase) sought.pattern r.pieces
            r.everywhere (2 * e.line.length + 2) r.occurrence false ⟨[], e.line, []⟩
          let e := { e with line, replacedOnce := e.replacedOnce || changed }
          let e := if changed ∧ r.print then e.printLine else e
          goOn (match changed, r.file with
            | true, some path => e.write path e.line
            | _, _ => e)
      | .map source target =>
        let change (letter : List Char) : List Char :=
          match source.idxOf? letter with
          | some i => target.getD i letter
          | none => letter
        goOn { e with line := (letters e.line).flatMap change }
      | .delete false => (.dropped, e)
      | .delete true =>
        match e.line.dropWhile (· ≠ e.mark) with
        | [] => (.dropped, e)
        | _ :: line => (.again, { e with line })
      | .print false => goOn e.printLine
      | .print true =>
        goOn (e.print (e.line.takeWhile (· ≠ e.mark)) (e.hasEnd || e.line.contains e.mark))
      | .number => goOn (e.say (toString e.number).toList)
      | .fileName => goOn (e.say e.name.toList)
      | .list asked => goOn (e.say (listedLine (asked.getD length) e.line))
      | .insertLine path => goOn (e.takeLine path)
      | .writeFile path firstOnly =>
        goOn (e.write path (if firstOnly then e.line.takeWhile (· ≠ e.mark) else e.line))
      | .quit quiet status => (.quit quiet status, e)
      | .append text => goOn { e with later := e.later ++ [text ++ ['\n']] }
      | .insertFile path => goOn { e with later := e.later ++ (e.store.contents? path).toList }
      | .insert text => goOn (e.say text)
      | .change text =>
        -- for a range the text is said once, at its end
        (.dropped, if inRange ∧ ¬ edit.others then e else e.say text)
      | .keep joined =>
        goOn (if joined then { e with
            kept := e.kept ++ e.mark :: e.line, keptEnd := e.hasEnd }
          else { e with kept := e.line, keptEnd := e.hasEnd })
      | .fetch joined =>
        goOn (if joined then { e with
            line := e.line ++ e.mark :: e.kept, hasEnd := e.keptEnd }
          else { e with line := e.kept, hasEnd := e.keptEnd })
      | .exchange => goOn { e with
          line := e.kept, hasEnd := e.keptEnd, kept := e.line, keptEnd := e.hasEnd }
      | .clear => goOn { e with line := [] }
      | .jump kind label =>
        let jumps : Bool := match kind with
          | .always => true
          | .ifReplaced => e.replacedOnce
          | .unlessReplaced => !e.replacedOnce
        -- a test for replacements forgets them, whether it jumps or not
        let e := if kind = .always then e else { e with replacedOnce := false }
        if ¬ jumps then goOn e
        else if label = "" then (.finished, e)
        else
          let isTarget (edit : Edit) : Bool := match edit.action with
            | .label name => name == label
            | _ => false
          let further := (program.dropWhile fun edit => !isTarget edit).drop 1
          applyEdits program silent length fuel further e
      | .next joined =>
        if e.coming.isEmpty then (.finished, e)
        else
          let shown := if joined ∨ silent then e else e.printLine
          match shown.printLater.advance? with
          | none => (.finished, e)
          | some later =>
            goOn (if joined then { later with line := e.line ++ e.mark :: later.line } else later)

/-- Edits lines up to the last one, the first one being taken already; the status is that of an edit
that ended it, if one did. -/
def editLines (program : List Edit) (silent : Bool) (length steps : Nat) : (fuel : Nat) →
    Editing → Editing × Option Nat
  | 0, e => (e, none)
  | fuel + 1, e =>
    let (passEnd, e) :=
      applyEdits program silent length steps program { e with replacedOnce := false }
    let goOn (e : Editing) : Editing × Option Nat :=
      let e := e.printLater
      match e.advance? with
      | none => (e, none)
      | some e => editLines program silent length steps fuel e
    match passEnd with
    | .finished => goOn (if silent then e else e.printLine)
    | .dropped => goOn e
    | .again => editLines program silent length steps fuel e.printLater
    | .quit quiet status =>
      ((if quiet ∨ silent then e else e.printLine).printLater, some status)

/-- How the tool works: what is printed, where lines end, how long the pieces of lines are that are
shown with all they hold, and whether files are edited one by one, and in their places. -/
structure EditMode where
  silent : Bool
  mark : Char
  length : Nat
  apart : Bool
  inPlace : Bool
  /-- What is put behind the names of files for what they were before. -/
  backup : String

namespace EditMode

/-- Edits lines from several files. -/
def edit (mode : EditMode) (program : List Edit) (steps : Nat) (e : Editing)
    (files : List (String × List Char)) : Editing × Option Nat :=
  let coming := files.flatMap fun (path, text) =>
    (recordsOf mode.mark text).map fun line => (path, line)
  match Editing.advance? { e with number := 0, coming, ranges := [] } with
  | none => (e, none)
  | some e => editLines program mode.silent mode.length 10000 steps e

/-- Edits files one by one, up to the end or to an edit that ends it. -/
def editEach (mode : EditMode) (program : List Edit) (steps : Nat) : Editing →
    List (String × List Char) → Editing × Option Nat
  | e, [] => (e, none)
  | e, (path, text) :: rest =>
    let (e, status) := mode.edit program steps e [(path, text)]
    let e :=
      if ¬ mode.inPlace then e
      else
        let name := ((path.splitOn "/").getLast?).getD path
        let place := (path.dropEnd name.length).toString
        let copy := if mode.backup.contains '*' then place ++ mode.backup.replace "*" name
          else path ++ mode.backup
        let kept := if mode.backup = "" then [] else [(copy, text)]
        { e with
          printed := []
          endMissing := false
          written := (path, e.printed.reverse.flatten) :: kept ++ e.written }
    match status with
    | some status => (e, some status)
    | none => editEach mode program steps e rest

end EditMode

/-- The files that edits write into. -/
def writtenPaths (edits : List Edit) : List String :=
  (edits.filterMap fun edit =>
    match edit.action with
    | .writeFile path _ => some path
    | .replace r => r.file
    | _ => none).filter (· ≠ "/dev/stdout")

/-- The label of a jump that leads nowhere, if there is one. -/
def lostLabel? (edits : List Edit) : Option String :=
  let labels := edits.filterMap fun edit =>
    match edit.action with
    | .label name => some name
    | _ => none
  edits.findSome? fun edit => match edit.action with
    | .jump _ label => if label ≠ "" ∧ label ∉ labels then some label else none
    | _ => none

/-- The usage of the tool, which is all it says when no script is given. -/
def sedUsage : String :=
  "Usage: sed [OPTION]... \x7bscript-only-if-no-other-script\x7d [input-file]..."

/-- The options of the tool. -/
def sedTable : OptionTable :=
  ⟨"nErsuzI", "efl", [("quiet", 'n'), ("silent", 'n'), ("expression", 'e'), ("file", 'f'),
    ("regexp-extended", 'E'), ("separate", 's'), ("unbuffered", 'u'), ("null-data", 'z'),
    ("zero-terminated", 'z'), ("in-place", 'I'), ("line-length", 'l'), ("posix", 'u'),
    ("sandbox", 'u')]⟩

/-- Applies an editing script to the lines of files; `-n` prints only what the script prints, `-s`
edits files one by one and `-i` in their places. -/
def sed (task : Task) : FilesReport :=
  -- the option takes its value in the same word only, so it is written as a long one
  let words := task.words.map fun word =>
    if word = "-i" then "--in-place"
    else if word.startsWith "-i" then "--in-place=" ++ (word.drop 2).toString
    else word
  let complaining (status : Nat) (text : String) : FilesReport :=
    ⟨.complaining task status text, []⟩
  match Task.options { task with words } sedTable with
  | .error fault => complaining 1 s!"sed: {fault.message}\n{sedUsage}"
  | .ok (options, words) =>
    let given := options.filterMap fun (letter, value) =>
      if letter = 'e' then some value.toList
      else if letter = 'f' then (task.contents? value).map fun text =>
        (text.reverse.dropWhile (· = '\n')).reverse
      else none
    let (scripts, paths) := match given, words with
      | [], script :: paths => ([script.toList], paths)
      | given, paths => (given, paths)
    let script := ['\n'].intercalate scripts
    let inPlace := hasOption options 'I'
    let mode : EditMode :=
      { silent := hasOption options 'n' || ['#', 'n', '\n'].isPrefixOf script ||
          script == ['#', 'n']
        mark := if hasOption options 'z' then '\x00' else '\n'
        length := ((optionValue? options 'l').bind natural?).getD 70
        apart := inPlace || hasOption options 's'
        inPlace
        backup := (optionValue? options 'I').getD "" }
    match scripts, readEdits (hasOption options 'E' || hasOption options 'r') script with
    | [], _ => complaining 1 sedUsage
    | _, .error (.unmatchedBrace, _) =>
      complaining 1 s!"sed: -e expression #1, char 0: {EditFault.unmatchedBrace.message}"
    | _, .error (.badPattern .classOutside, _) =>
      complaining 4 s!"sed: {PatternFault.classOutside.message}"
    | _, .error (fault, rest) =>
      -- how much of the script was read when the fault was found
      let place := script.length - rest.length
      complaining 1 s!"sed: -e expression #1, char {place}: {fault.message}"
    | _, .ok edits =>
      match lostLabel? edits with
      | some label => complaining 4 s!"sed: can't find label for jump to \x60{label}'"
      | none =>
        if inPlace ∧ paths.isEmpty then complaining 1 "sed: no input files"
        else
          let (found, complaint) := task.sources paths fun path fault =>
            if fault = .directory then s!"sed: couldn't edit {path}: not a regular file"
            else s!"sed: can't read {path}: {fault.message}"
          -- a script that jumps back for ever would not end otherwise
          let steps := 2 * (found.map fun (_, text) => text.length + 1).foldl (· + ·) 0 +
            script.length + 1000
          let start : Editing :=
            { number := 0, line := [], hasEnd := true, name := "-", coming := []
              mark := mode.mark, kept := [], keptEnd := true, printed := [], later := []
              endMissing := false, replacedOnce := false, ranges := [], last := none, lost := false
              store := task.store, taken := []
              written := (writtenPaths edits).map fun path => (path, []) }
          let (e, status) :=
            if mode.apart then mode.editEach edits steps start found
            else mode.edit edits steps start found
          let complaint := complaint ++ if ¬ e.lost then [] else
            s!"sed: -e expression #1, char 0: {EditFault.noEarlierPattern.message}\n".toList
          ⟨⟨e.printed.reverse.flatten, complaint,
            if e.lost then 1 else if complaint.isEmpty then status.getD 0 else 2,
            if Task.readsInput paths then [] else task.input⟩, e.written⟩

end Shell

end TreeOutline
