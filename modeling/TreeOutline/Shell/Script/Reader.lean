import TreeOutline.Shell.Script.Token

namespace TreeOutline

/-!
# Reading scripts

A script is read line by line, since the lines in front of a fault are run.  All functions take the
number of lines that end in the script, by which they know the line they are in.

* `Shell.readParts` — the parts of a word, by the place where it stands.
* `Shell.readCommand`, `Shell.readStatements` — commands and lists of them.
* `Shell.readLine?` — the statements of the first line of a script, and the rest.
-/

namespace Shell

/-- What is read, or where reading stops. -/
abbrev Reading := Except ScriptStop

/-- Where a word stands, which decides what ends it and what its characters mean. -/
inductive Surroundings where
  /-- Between the words of a command. -/
  | bare
  /-- Between double quotes. -/
  | quotes
  /-- In the lines that a redirection takes up; they end with the text. -/
  | lines
  /-- Behind the name of a parameter, between double quotes or not. -/
  | braces (quoted : Bool)
  /-- In an arithmetic expression, behind a number of open parentheses. -/
  | sum (depth : Nat)
deriving DecidableEq, Repr

namespace Surroundings

/-- Whether what is put in here stays in one piece. -/
def isQuoted : Surroundings → Bool
  | .bare | .braces false => false
  | _ => true

/-- Whether a character behind a backslash loses its meaning here. -/
def masks (place : Surroundings) (c : Char) : Bool :=
  match place with
  | .bare | .braces false => true
  | .quotes => c ∈ ['$', '\x60', '\\', '"']
  | .lines | .sum _ => c ∈ ['$', '\x60', '\\']
  | .braces true => c ∈ ['$', '\x60', '\\', '"', '\x7d']

/-- What is wrong when the script ends here. -/
def faultAtEnd : Surroundings → Option ScriptFault
  | .bare | .lines => none
  | .quotes => some .unterminatedQuote
  | .braces _ => some .missingBrace
  | .sum _ => some .missingParentheses

end Surroundings

/-- Puts a character in front of parts. -/
def consChar (quoted : Bool) (c : Char) : Word → Word
  | .text text q :: rest =>
    if q = quoted then .text (String.singleton c ++ text) q :: rest
    else .text (String.singleton c) quoted :: .text text q :: rest
  | parts => .text (String.singleton c) quoted :: parts

/-- What is made of a parameter, by the characters behind its name, and whether a word follows. -/
def useOf : List Char → Option (Word → Use) × List Char
  | ':' :: c :: rest =>
    match fallbackOf c with
    | some kind => (some (.fallback kind true), rest)
    | none => (none, ':' :: c :: rest)
  | '#' :: '#' :: rest => (some (.trimmed false true), rest)
  | '#' :: rest => (some (.trimmed false false), rest)
  | '%' :: '%' :: rest => (some (.trimmed true true), rest)
  | '%' :: rest => (some (.trimmed true false), rest)
  | c :: rest =>
    match fallbackOf c with
    | some kind => (some (.fallback kind false), rest)
    | none => (none, c :: rest)
  | [] => (none, [])
where
  /-- What the word behind a character is for. -/
  fallbackOf : Char → Option Fallback
    | '-' => some .replace
    | '=' => some .assign
    | '?' => some .complain
    | '+' => some .exchange
    | _ => none

/-- What is left behind the use of a parameter ends the script. -/
theorem useOf_suffix (chars : List Char) : (useOf chars).2 <:+ chars := by
  fun_cases useOf chars with
  | case1 c rest kind hkind => exact (List.suffix_cons _ _).trans (List.suffix_cons _ _)
  | case2 c rest hkind => exact List.suffix_rfl
  | case3 rest => exact (List.suffix_cons _ _).trans (List.suffix_cons _ _)
  | case4 rest => exact List.suffix_cons _ _
  | case5 rest => exact (List.suffix_cons _ _).trans (List.suffix_cons _ _)
  | case6 rest => exact List.suffix_cons _ _
  | case7 c rest => exact List.suffix_cons _ _
  | case8 c rest => exact List.suffix_rfl
  | case9 => exact List.suffix_rfl

/-- Whether the rest of a sum's parentheses follows, which `$((` is taken back for otherwise. -/
def closesSum : (fuel depth : Nat) → List Char → Bool
  | 0, _, _ => true
  | _, _, [] => true
  | fuel + 1, depth, c :: rest =>
    if c = '(' then closesSum fuel (depth + 1) rest
    else if c ≠ ')' then closesSum fuel depth rest
    else if 0 < depth then closesSum fuel (depth - 1) rest
    else rest.head? == some ')'

/-- What follows a keyword or operator that has to stand here. -/
def readCloser (ends : Nat) (closer : String) (chars : List Char) : Reading (List Char) :=
  match ((keyword? chars).or (operator? chars)).filter (·.1 = closer) with
  | some (_, rest) => .ok rest
  | none => .error (unexpected ends true (some (inQuotes closer)) chars)

/-- The keyword or operator that has to stand somewhere stands there. -/
theorem append_of_readCloser {ends : Nat} {closer : String} {chars rest : List Char}
    (h : readCloser ends closer chars = .ok rest) : chars = closer.toList ++ rest := by
  rw [readCloser] at h
  split at h
  next text behind hread =>
    obtain ⟨hfound, hcloser⟩ := Option.filter_eq_some_iff.1 hread
    obtain rfl : text = closer := by simpa using hcloser
    obtain rfl := Except.ok.inj h
    rcases Option.or_eq_some_iff.1 hfound with hkeyword | ⟨-, hoperator⟩
    · exact (append_of_keyword? hkeyword).2
    · exact (append_of_operator? hoperator).2
  next => cases h

mutual

/-- The parts of a word up to what ends it; that is left in place only between the words of a
command. -/
def readParts (ends : Nat) : (fuel : Nat) → Surroundings → List Char → Reading (Word × List Char)
  | 0, _, chars => .error (unexpected ends false none chars)
  | fuel + 1, place, chars =>
    let quoted := place.isQuoted
    let letter (quoted : Bool) (c : Char) (place : Surroundings) (rest : List Char) :
        Reading (Word × List Char) := do
      let (parts, rest) ← readParts ends fuel place rest
      .ok (consChar quoted c parts, rest)
    match chars with
    | [] =>
      match place.faultAtEnd with
      | none => .ok ([], [])
      | some fault => .error ⟨fault, lineAt ends []⟩
    | '\\' :: '\n' :: rest => readParts ends fuel place rest
    | '\\' :: c :: rest =>
      if place.masks c then letter true c place rest else letter quoted '\\' place (c :: rest)
    | '$' :: _ | '\x60' :: _ => do
      let (part, rest) ← readReplaced ends fuel quoted chars
      let (parts, rest) ← readParts ends fuel place rest
      .ok (part :: parts, rest)
    | c :: rest =>
      match place with
      | .bare =>
        if endsWord c then .ok ([], chars)
        else if c = '\'' ∨ c = '"' then readSection ends fuel place c rest
        else letter false c place rest
      | .quotes => if c = '"' then .ok ([], rest) else letter true c place rest
      | .lines => letter true c place rest
      | .braces inQuotes =>
        if c = '\x7d' then .ok ([], rest)
        else if c = '"' ∨ (c = '\'' ∧ ¬ inQuotes) then readSection ends fuel place c rest
        else letter inQuotes c place rest
      | .sum depth =>
        match c, depth, rest with
        | '(', depth, rest => letter true c (.sum (depth + 1)) rest
        | ')', 0, ')' :: rest => .ok ([], rest)
        | ')', depth, rest => letter true c (.sum (depth - 1)) rest
        | c, _, rest => if c = '"' then readParts ends fuel place rest else letter true c place rest

/-- A section between quotes behind the first of them, and the rest of the word. -/
def readSection (ends : Nat) : (fuel : Nat) → Surroundings → (quote : Char) → List Char →
    Reading (Word × List Char)
  | 0, _, _, chars => .error (unexpected ends false none chars)
  | fuel + 1, place, quote, chars => do
    let (inside, rest) ←
      if quote = '"' then readParts ends fuel .quotes chars
      else
        let text := chars.takeWhile (· ≠ '\'')
        match chars.drop text.length with
        | [] => .error ⟨.unterminatedQuote, lineAt ends []⟩
        | _ :: rest => .ok ([.text (String.ofList text) true], rest)
    let inside := if inside.isEmpty then [.text "" true] else inside
    let (parts, rest) ← readParts ends fuel place rest
    .ok (inside ++ parts, rest)

/-- A parameter, what a script prints, or the value of an arithmetic expression. -/
def readReplaced (ends : Nat) : (fuel : Nat) → (quoted : Bool) → List Char →
    Reading (Part × List Char)
  | 0, _, chars => .error (unexpected ends false none chars)
  | fuel + 1, quoted, chars =>
    match chars with
    | '\x60' :: rest =>
      match backquoted? rest with
      | none => .error ⟨.unterminatedBackquote, lineAt ends []⟩
      | some (text, rest) => do
        let (script, _) ← readAll ends fuel none text
        .ok (.output script quoted, rest)
    | '$' :: '(' :: '(' :: rest =>
      if closesSum (rest.length + 1) 0 rest then do
        let (expression, rest) ← readParts ends fuel (.sum 0) rest
        .ok (.sum expression quoted, rest)
      else do
        let (script, rest) ← readAll ends fuel (some ")") ('(' :: rest)
        .ok (.output script quoted, rest)
    | '$' :: '(' :: rest => do
      let (script, rest) ← readAll ends fuel (some ")") rest
      .ok (.output script quoted, rest)
    | '$' :: '{' :: rest => readBraced ends fuel quoted rest
    | '$' :: rest =>
      match parameterName? rest with
      | some (name, rest) => .ok (.parameter name .value quoted, rest)
      | none => .ok (.text "$" true, rest)
    | chars => .ok (.text "" true, chars.drop 1)

/-- A parameter behind an opening brace, and what is made of its value. -/
def readBraced (ends : Nat) : (fuel : Nat) → (quoted : Bool) → List Char →
    Reading (Part × List Char)
  | 0, _, chars => .error (unexpected ends false none chars)
  | fuel + 1, quoted, chars =>
    let refused : Reading (Part × List Char) := do
      let (_, rest) ← readParts ends fuel (.braces quoted) chars
      .ok (.parameter "" .refused quoted, rest)
    match chars with
    | '#' :: '\x7d' :: rest => .ok (.parameter "#" .value quoted, rest)
    | '#' :: rest =>
      match bracedName? rest with
      | some (name, '\x7d' :: rest) => .ok (.parameter name .length quoted, rest)
      | _ => refused
    | chars =>
      match bracedName? chars with
      | none => refused
      | some (name, '\x7d' :: rest) => .ok (.parameter name .value quoted, rest)
      | some (name, rest) =>
        match useOf rest with
        | (none, _) => refused
        | (some use, rest) => do
          let isPattern := match use [] with
            | .trimmed .. => true
            | _ => false
          let (word, rest) ← readParts ends fuel (.braces (quoted && !isPattern)) rest
          .ok (.parameter name (use word) quoted, rest)

/-- Redirections as long as there are any. -/
def readRedirections (ends : Nat) : (fuel : Nat) → List Char →
    Reading (List Redirection × List Char)
  | 0, chars => .error (unexpected ends false none chars)
  | fuel + 1, chars =>
    let chars := skipBlanks chars
    match redirection? chars with
    | none => .ok ([], chars)
    | some (stream, operator, rest) => do
      let (redirection, rest) ← readTarget ends fuel stream operator (skipBlanks rest)
      let (more, rest) ← readRedirections ends fuel rest
      .ok (redirection :: more, rest)

/-- The word behind a redirection's operator. -/
def readTarget (ends : Nat) : (fuel : Nat) → (stream : Option Nat) → (operator : String) →
    List Char → Reading (Redirection × List Char)
  | 0, _, _, chars => .error (unexpected ends false none chars)
  | fuel + 1, stream, operator, chars => do
    let (word, rest) ← readParts ends fuel .bare chars
    if word.isEmpty then .error (unexpected ends false none chars)
    else
      match operator with
      | "<" | "<>" => .ok (.input (stream.getD 0) word, rest)
      | "<<" | "<<-" => do
        let delimiter := word.flatMap fun
          | .text text _ => text.toList
          | _ => []
        let isQuoted := word.any fun
          | .text _ quoted => quoted
          | _ => true
        let line := rest.takeWhile (· ≠ '\n')
        let (content, after) :=
          hereLines (operator == "<<-") delimiter (fuel + 1) ((rest.drop line.length).drop 1)
        let (content, _) ←
          if isQuoted then .ok ([Part.text (String.ofList content) true], [])
          else readParts ends fuel .lines content
        .ok (.text content, if after.isEmpty then line else line ++ '\n' :: after)
      | "<&" => .ok (.duplicate (stream.getD 0) word, rest)
      | ">&" => .ok (.duplicate (stream.getD 1) word, rest)
      | operator => .ok (.output (stream.getD 1) (operator == ">>") word, rest)

/-- The settings, words and redirections of a simple command, or the definition of a function. -/
def readSimple (ends line : Nat) : (fuel : Nat) → (settings : List (String × Word)) →
    (words : List Word) → (redirections : List Redirection) → List Char →
    Reading (Command × List Char)
  | 0, _, _, _, chars => .error (unexpected ends false none chars)
  | fuel + 1, settings, words, redirections, chars =>
    let chars := skipBlanks chars
    let finished : Reading (Command × List Char) :=
      if settings.isEmpty ∧ words.isEmpty ∧ redirections.isEmpty then
        .error (unexpected ends true none chars)
      else .ok (.simple line settings words redirections, chars)
    match redirection? chars, chars with
    | some (stream, operator, rest), _ => do
      let (redirection, rest) ← readTarget ends fuel stream operator (skipBlanks rest)
      readSimple ends line fuel settings words (redirections ++ [redirection]) rest
    | none, [] => finished
    | none, c :: rest =>
      match words, settings, redirections with
      | [word], [], [] =>
        if c = '(' then readFunction ends fuel word (skipBlanks rest)
        else if endsWord c then finished
        else do
          let (next, rest) ← readParts ends fuel .bare chars
          readSimple ends line fuel [] [word, next] [] rest
      | words, settings, redirections =>
        if endsWord c then finished
        else
          match words, settingName? chars with
          | [], some (name, rest) => do
            let (value, rest) ← readParts ends fuel .bare rest
            readSimple ends line fuel (settings ++ [(name, value)]) words redirections rest
          | words, _ => do
            let (word, rest) ← readParts ends fuel .bare chars
            readSimple ends line fuel settings (words ++ [word]) redirections rest

/-- A function behind its name and the first parenthesis. -/
def readFunction (ends : Nat) : (fuel : Nat) → Word → List Char → Reading (Command × List Char)
  | 0, _, chars => .error (unexpected ends false none chars)
  | fuel + 1, word, chars =>
    match chars, word with
    | ')' :: rest, [.text name false] =>
      if isName name.toList ∧ name ∉ specialNames then do
        let (body, rest) ← readCommand ends fuel (skipLines fuel rest)
        .ok (.definition name body, rest)
      else .error ⟨.badFunctionName, lineAt ends rest⟩
    | ')' :: rest, _ => .error ⟨.badFunctionName, lineAt ends rest⟩
    | chars, _ => .error (unexpected ends false (some (inQuotes ")")) chars)

/-- A list of commands and the keyword or operator behind it. -/
def readBody (ends : Nat) : (fuel : Nat) → (closer : String) → List Char →
    Reading (List Statement × List Char)
  | 0, _, chars => .error (unexpected ends false none chars)
  | fuel + 1, closer, chars => do
    let (body, rest) ← readStatements ends fuel chars
    let rest ← readCloser ends closer rest
    .ok (body, rest)

/-- The rest of a choice behind the keyword that begins a branch. -/
def readChoice (ends : Nat) : (fuel : Nat) → (branches : List (List Statement × List Statement)) →
    List Char → Reading (Command × List Char)
  | 0, _, chars => .error (unexpected ends false none chars)
  | fuel + 1, branches, chars => do
    let (condition, rest) ← readBody ends fuel "then" chars
    let (body, rest) ← readStatements ends fuel rest
    let branches := branches ++ [(condition, body)]
    match keyword? rest with
    | some ("elif", rest) => readChoice ends fuel branches rest
    | some ("else", rest) => do
      let (otherwise, rest) ← readBody ends fuel "fi" rest
      let (redirections, rest) ← readRedirections ends fuel rest
      .ok (.choice branches otherwise redirections, rest)
    | _ => do
      let rest ← readCloser ends "fi" rest
      let (redirections, rest) ← readRedirections ends fuel rest
      .ok (.choice branches [] redirections, rest)

/-- Words as long as there are any. -/
def readWords (ends : Nat) : (fuel : Nat) → List Char → Reading (List Word × List Char)
  | 0, chars => .error (unexpected ends false none chars)
  | fuel + 1, chars => do
    let chars := skipBlanks chars
    let (word, rest) ← readParts ends fuel .bare chars
    if word.isEmpty then .ok ([], chars)
    else
      let (words, rest) ← readWords ends fuel rest
      .ok (word :: words, rest)

/-- A loop over words behind its keyword. -/
def readEach (ends : Nat) : (fuel : Nat) → List Char → Reading (Command × List Char)
  | 0, chars => .error (unexpected ends false none chars)
  | fuel + 1, chars => do
    let chars := skipBlanks chars
    let name := chars.takeWhile isNameChar
    let rest := chars.drop name.length
    if ¬ isName name ∨ rest.head?.any fun c => !endsWord c then
      .error ⟨.badLoopVariable, lineAt ends rest⟩
    else
      let (words, rest) ← match keyword? (skipLines fuel rest) with
        | some ("in", rest) => do
          let (words, rest) ← readWords ends fuel rest
          match rest with
          | ';' :: rest | '\n' :: rest => .ok (words, rest)
          | rest => .error (unexpected ends false none rest)
        | _ =>
          let rest := match skipBlanks rest with
            | ';' :: rest => rest
            | rest => rest
          .ok ([[.parameter "@" .value true]], rest)
      let rest ← readCloser ends "do" (skipLines fuel rest)
      let (body, rest) ← readBody ends fuel "done" rest
      let (redirections, rest) ← readRedirections ends fuel rest
      .ok (.each (String.ofList name) words body redirections, rest)

/-- Patterns with bars between them, and the parenthesis behind the last one. -/
def readPatterns (ends : Nat) : (fuel : Nat) → List Char → Reading (List Word × List Char)
  | 0, chars => .error (unexpected ends false none chars)
  | fuel + 1, chars => do
    let (pattern, rest) ← readParts ends fuel .bare (skipBlanks chars)
    match skipBlanks rest with
    | '|' :: rest => do
      let (patterns, rest) ← readPatterns ends fuel rest
      .ok (pattern :: patterns, rest)
    | ')' :: rest => .ok ([pattern], rest)
    | rest => .error (unexpected ends false (some (inQuotes ")")) rest)

/-- The branches of a selection up to its closing keyword. -/
def readBranches (ends : Nat) : (fuel : Nat) → List Char →
    Reading (List (List Word × List Statement) × List Char)
  | 0, chars => .error (unexpected ends false none chars)
  | fuel + 1, chars =>
    let chars := skipLines fuel chars
    match keyword? chars with
    | some ("esac", rest) => .ok ([], rest)
    | _ => do
      let chars := match chars with
        | '(' :: rest => rest
        | chars => chars
      let (patterns, rest) ← readPatterns ends fuel chars
      let rest := skipLines fuel rest
      let (body, rest) ← if atCloser rest then .ok ([], rest) else readStatements ends fuel rest
      match keyword? rest, operator? rest with
      | some ("esac", rest), _ => .ok ([(patterns, body)], rest)
      | _, some (";;", rest) => do
        let (branches, rest) ← readBranches ends fuel rest
        .ok ((patterns, body) :: branches, rest)
      | _, _ => .error (unexpected ends true (some (inQuotes ";;")) rest)

/-- A selection behind its keyword. -/
def readSelection (ends : Nat) : (fuel : Nat) → List Char → Reading (Command × List Char)
  | 0, chars => .error (unexpected ends false none chars)
  | fuel + 1, chars => do
    let chars := skipBlanks chars
    let (word, rest) ← readParts ends fuel .bare chars
    if word.isEmpty then .error (unexpected ends false (some "word") chars)
    else
      let rest ← readCloser ends "in" (skipLines fuel rest)
      let (branches, rest) ← readBranches ends fuel rest
      let (redirections, rest) ← readRedirections ends fuel rest
      .ok (.selection word branches redirections, rest)

/-- A command. -/
def readCommand (ends : Nat) : (fuel : Nat) → List Char → Reading (Command × List Char)
  | 0, chars => .error (unexpected ends false none chars)
  | fuel + 1, chars =>
    let chars := skipBlanks chars
    let group (isolated : Bool) (closer : String) (rest : List Char) :
        Reading (Command × List Char) := do
      let (body, rest) ← readBody ends fuel closer rest
      let (redirections, rest) ← readRedirections ends fuel rest
      .ok (.group isolated body redirections, rest)
    let loop (untilHolds : Bool) (rest : List Char) : Reading (Command × List Char) := do
      let (condition, rest) ← readBody ends fuel "do" rest
      let (body, rest) ← readBody ends fuel "done" rest
      let (redirections, rest) ← readRedirections ends fuel rest
      .ok (.loop untilHolds condition body redirections, rest)
    match chars, keyword? chars with
    | '(' :: rest, _ => group true ")" rest
    | _, some ("\x7b", rest) => group false "\x7d" rest
    | _, some ("if", rest) => readChoice ends fuel [] rest
    | _, some ("for", rest) => readEach ends fuel rest
    | _, some ("case", rest) => readSelection ends fuel rest
    | _, some ("while", rest) => loop false rest
    | _, some ("until", rest) => loop true rest
    | _, some _ => .error (unexpected ends true none chars)
    | _, none => readSimple ends (lineAt ends chars) fuel [] [] [] chars

/-- The commands of a pipeline behind the first. -/
def readPipes (ends : Nat) : (fuel : Nat) → List Char → Reading (List Command × List Char)
  | 0, chars => .error (unexpected ends false none chars)
  | fuel + 1, chars =>
    match operator? (skipBlanks chars) with
    | some ("|", rest) => do
      let (command, rest) ← readCommand ends fuel (skipLines fuel rest)
      let (commands, rest) ← readPipes ends fuel rest
      .ok (command :: commands, rest)
    | _ => .ok ([], chars)

/-- A pipeline. -/
def readPipeline (ends : Nat) : (fuel : Nat) → List Char → Reading (Statement × List Char)
  | 0, chars => .error (unexpected ends false none chars)
  | fuel + 1, chars => do
    let chars := skipBlanks chars
    let (negated, chars) := match keyword? chars with
      | some ("!", rest) => (true, rest)
      | _ => (false, chars)
    let (command, rest) ← readCommand ends fuel chars
    let (commands, rest) ← readPipes ends fuel rest
    .ok (.pipeline negated (command :: commands), rest)

/-- The pipelines that are joined to a statement. -/
def readJoined (ends : Nat) : (fuel : Nat) → Statement → List Char →
    Reading (Statement × List Char)
  | 0, _, chars => .error (unexpected ends false none chars)
  | fuel + 1, first, chars =>
    match operator? (skipBlanks chars) with
    | some ("&&", rest) => do
      let (second, rest) ← readPipeline ends fuel (skipLines fuel rest)
      readJoined ends fuel (.both first second) rest
    | some ("||", rest) => do
      let (second, rest) ← readPipeline ends fuel (skipLines fuel rest)
      readJoined ends fuel (.either first second) rest
    | _ => .ok (first, skipBlanks chars)

/-- A statement, what ends it, and whether that is the end of a line. -/
def readStatement (ends : Nat) : (fuel : Nat) → List Char →
    Reading ((Statement × Option Char) × List Char)
  | 0, chars => .error (unexpected ends false none chars)
  | fuel + 1, chars => do
    let (first, rest) ← readPipeline ends fuel chars
    let (statement, rest) ← readJoined ends fuel first rest
    match operator? rest, rest with
    | some (";", rest), _ => .ok ((statement, some ';'), rest)
    | some ("&", rest), _ => .ok ((.aside statement, some '&'), rest)
    | none, '\n' :: rest => .ok ((statement, some '\n'), rest)
    | _, rest => .ok ((statement, none), rest)

/-- Statements, at least one unless the script ends here, up to what closes them, which is left in
place. -/
def readStatements (ends : Nat) : (fuel : Nat) → List Char → Reading (List Statement × List Char)
  | 0, chars => .error (unexpected ends false none chars)
  | fuel + 1, chars => do
    let chars := skipLines fuel chars
    if chars.isEmpty then return ([], [])
    let ((statement, mark), rest) ← readStatement ends fuel chars
    let rest := if mark.isSome then skipLines fuel rest else rest
    if mark.isNone ∨ atCloser rest then .ok ([statement], rest)
    else
      let (statements, rest) ← readStatements ends fuel rest
      .ok (statement :: statements, rest)

/-- All statements up to the end or to a closing operator, if there are any. -/
def readAll (ends : Nat) : (fuel : Nat) → (closer : Option String) → List Char →
    Reading (List Statement × List Char)
  | 0, _, chars => .error (unexpected ends false none chars)
  | fuel + 1, closer, chars => do
    let chars := skipLines fuel chars
    let isEmpty : Bool := match closer with
      | some closer => ((operator? chars).filter (·.1 = closer)).isSome
      | none => chars.isEmpty
    let (statements, rest) ← if isEmpty then .ok ([], chars) else readStatements ends fuel chars
    match closer with
    | some closer => do
      let rest ← readCloser ends closer rest
      .ok (statements, rest)
    | none =>
      if rest.isEmpty then .ok (statements, []) else .error (unexpected ends true none rest)

/-- The statements of the line that begins here, which may reach over several lines. -/
def readLineFrom (ends : Nat) : (fuel : Nat) → List Char → Reading (List Statement × List Char)
  | 0, chars => .error (unexpected ends false none chars)
  | fuel + 1, chars => do
    let ((statement, mark), rest) ← readStatement ends fuel chars
    let rest := skipBlanks rest
    match mark, rest with
    | some '\n', rest => .ok ([statement], rest)
    | none, [] | some _, [] => .ok ([statement], [])
    | none, rest => .error (unexpected ends true none rest)
    | some _, '\n' :: rest => .ok ([statement], rest)
    | some _, rest => do
      let (statements, rest) ← readLineFrom ends fuel rest
      .ok (statement :: statements, rest)

end

/-- The statements of the first line of a script with `ends` ends of lines, and the rest. -/
def readLine? (ends : Nat) (chars : List Char) :
    Except ScriptStop (Option (List Statement × List Char)) :=
  let fuel := 16 * chars.length + 64
  let chars := skipLines fuel chars
  if chars.isEmpty then .ok none else (readLineFrom ends fuel chars).map some

end Shell

end TreeOutline
