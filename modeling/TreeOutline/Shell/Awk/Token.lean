import TreeOutline.Number.Bits
import TreeOutline.Shell.Awk.Matching
import TreeOutline.Shell.Awk.Program
import TreeOutline.Shell.Script.Token

namespace TreeOutline

/-!
# Tokens of programs for records

* `Shell.Awk.Token` — a token; `Token.shown` — how it is named in complaints.
* `Shell.Awk.tokensOf` — the tokens of a program, each with its line.
-/

namespace Shell

namespace Awk

/-- A token. -/
inductive Token where
  | number (x : Float) (spelling : String)
  | text (chars : List Char)
  | pattern (chars : List Char)
  | name (text : String)
  /-- A name with a parenthesis right behind it. -/
  | call (text : String)
  | builtin (function : Builtin)
  | keyword (text : String)
  | mark (text : String)
  | newline
  | semicolon
  /-- The end of a statement in front of a brace that has no other one. -/
  | implied
  | unexpected (c : Char)
  /-- A complaint that the program is read on behind. -/
  | complaint (text : String)
  /-- A complaint that ends the reading. -/
  | broken (text : String)
  | finish
deriving Inhabited

/-- The functions that are always there, by their names. -/
def builtins : List (String × Builtin) :=
  [("length", .length), ("substr", .substr), ("index", .index), ("split", .split), ("sub", .sub),
    ("gsub", .gsub), ("match", .match'), ("sprintf", .sprintf), ("sin", .sin), ("cos", .cos),
    ("atan2", .atan2), ("exp", .exp), ("log", .log), ("sqrt", .sqrt), ("int", .int),
    ("rand", .rand), ("srand", .srand), ("tolower", .tolower), ("toupper", .toupper),
    ("system", .system), ("close", .close), ("fflush", .fflush)]

/-- The words that are no names. -/
def reservedWords : List String :=
  ["BEGIN", "END", "function", "if", "else", "while", "do", "for", "in", "break", "continue",
    "delete", "print", "printf", "next", "nextfile", "exit", "return", "getline"]

/-- How a token is named in complaints. -/
def Token.shown : Token → Option String
  | .unexpected _ | .complaint _ | .broken _ => none
  | .number _ word | .name word | .call word => some word
  | .text chars => some (String.ofList (lowered chars))
  | .pattern chars => some s!"/{String.ofList (lowered chars)}/"
  | .builtin function => (builtins.find? (·.2 = function)).map (·.1)
  | .keyword word | .mark word => some word
  | .newline => some "end of line"
  | .semicolon => some ";"
  | .implied => some "\x7d"
  | .finish => some "end of file"

/-- Whether a slash behind a token divides; elsewhere it begins a pattern. -/
def Token.endsOperand : Token → Bool
  | .number _ _ | .text _ | .pattern _ | .name _ | .builtin _ => true
  | .mark word => word ∈ [")", "]", "++", "--", "$"]
  | _ => false

/-- Whether a token ends a statement, so that a brace behind it needs no end in front. -/
def Token.endsStatement : Token → Bool
  | .newline | .semicolon | .implied => true
  | .mark word => word = "\x7d"
  | _ => false

/-! ### Parts of a program -/

/-- Skips blanks, comments, ends of lines and those that a backslash masks, counting lines. -/
def skipLines : (fuel line : Nat) → List Char → Nat × List Char
  | 0, line, chars => (line, chars)
  | fuel + 1, line, chars =>
    match chars with
    | '\n' :: rest => skipLines fuel (line + 1) rest
    | '\\' :: '\n' :: rest => skipLines fuel (line + 1) rest
    | '#' :: rest => skipLines fuel line (rest.dropWhile (· ≠ '\n'))
    | c :: rest => if c ∈ [' ', '\t', '\r', '\x0b', '\x0c'] then skipLines fuel line rest
      else (line, chars)
    | [] => (line, [])

/-- **Lines are counted** as they are skipped: what is left ends the text, and the number grows by
the ends of lines in front of it. -/
theorem skipLines_counts (fuel line : Nat) (chars : List Char) :
    ∃ skipped, chars = skipped ++ (skipLines fuel line chars).2 ∧
      (skipLines fuel line chars).1 = line + skipped.count '\n' := by
  fun_induction skipLines fuel line chars with
  | case1 line chars => exact ⟨[], rfl, rfl⟩
  | case2 fuel line rest ih =>
    obtain ⟨skipped, hrest, hline⟩ := ih
    exact ⟨'\n' :: skipped, by rw [List.cons_append, ← hrest], by rw [hline]; simp; omega⟩
  | case3 fuel line rest ih =>
    obtain ⟨skipped, hrest, hline⟩ := ih
    refine ⟨'\\' :: '\n' :: skipped, ?_, ?_⟩
    · rw [List.cons_append, List.cons_append, ← hrest]
    · rw [hline]; simp; omega
  | case4 fuel line rest ih =>
    -- a comment goes on up to its end of line, which is skipped behind it
    obtain ⟨skipped, hrest, hline⟩ := ih
    refine ⟨'#' :: rest.takeWhile (· ≠ '\n') ++ skipped, ?_, ?_⟩
    · rw [List.append_assoc, List.cons_append, ← hrest]
      simp
    · have hcount : (rest.takeWhile (· ≠ '\n')).count '\n' = 0 := by
        refine List.count_eq_zero_of_not_mem fun hmem => ?_
        simpa using List.all_eq_true.1 List.all_takeWhile _ hmem
      rw [hline, List.count_append, List.count_cons_of_ne (by decide), hcount, Nat.zero_add]
  | case5 fuel line c rest hnewline hmask hcomment hblank ih =>
    obtain ⟨skipped, hrest, hline⟩ := ih
    refine ⟨c :: skipped, by rw [List.cons_append, ← hrest], ?_⟩
    rw [hline, List.count_cons_of_ne hnewline]
  | case6 fuel line c rest hblank => exact ⟨[], rfl, rfl⟩
  | case7 fuel line => exact ⟨[], rfl, rfl⟩

/-- The letters of a text up to its closing quote, how many lines go on in it, and what follows;
`none` where it does not end in its line. -/
def textBody : (fuel : Nat) → List Char → Option (List Char × Nat × List Char)
  | 0, _ => none
  | fuel + 1, chars =>
    let further (letters : List Char) (lines : Nat) (rest : List Char) :
        Option (List Char × Nat × List Char) :=
      (textBody fuel rest).map fun (more, count, rest) => (letters ++ more, lines + count, rest)
    match chars with
    | [] | '\n' :: _ => none
    | '"' :: rest => some ([], 0, rest)
    | '\\' :: '\n' :: rest => further [] 1 rest
    | '\\' :: '"' :: rest => further ['"'] 0 rest
    | '\\' :: rest =>
      match escape? rest with
      | some (c, rest) => further [c] 0 rest
      | none => further ('\\' :: rest.take 1) 0 (rest.drop 1)
    | c :: rest => further [c] 0 rest

/-- The letters of a pattern up to its closing slash, a masked slash without its backslash, and what
follows; `none` where it does not end in its line.  A slash within a set does not end it. -/
def patternBody : (fuel : Nat) → (inSet : Bool) → List Char → Option (List Char × List Char)
  | 0, _, _ => none
  | fuel + 1, inSet, chars =>
    let further (letters : List Char) (inSet : Bool) (rest : List Char) :
        Option (List Char × List Char) :=
      (patternBody fuel inSet rest).map fun (more, rest) => (letters ++ more, rest)
    match chars with
    | [] | '\n' :: _ => none
    -- inside of a set a slash does not end the pattern
    | '/' :: rest => if inSet then further ['/'] true rest else some ([], rest)
    | '\\' :: '/' :: rest => further ['/'] inSet rest
    | '\\' :: c :: rest => if c = '\n' then none else further ['\\', c] inSet rest
    -- a closing bracket is a letter where it is the first of a set
    | '[' :: '^' :: ']' :: rest =>
      if inSet then further ['['] true ('^' :: ']' :: rest) else further ['[', '^', ']'] true rest
    | '[' :: ']' :: rest =>
      if inSet then further ['['] true (']' :: rest) else further ['[', ']'] true rest
    | '[' :: ':' :: rest =>
      if ¬ inSet then further ['['] true (':' :: rest)
      else
        let name := rest.takeWhile Char.isAlpha
        match rest.drop name.length with
        | ':' :: ']' :: rest => further ('[' :: ':' :: name ++ [':', ']']) true rest
        | _ => further ['[', ':'] true rest
    | ']' :: rest => further [']'] false rest
    | c :: rest => further [c] (inSet || c = '[') rest

/-- The marks of two letters. -/
def doubleMarks : List String :=
  ["==", "!=", "<=", ">=", "!~", "&&", "||", ">>", "++", "--", "+=", "-=", "*=", "/=", "%=", "^="]

/-- The marks of one letter. -/
def singleMarks : List Char :=
  ['(', ')', '[', ']', ',', '+', '-', '*', '/', '%', '^', '!', '>', '<', '|', '?', ':', '~', '$',
    '=']

/-- The number at the start of a program, and what follows, or a complaint about one that is too
large or too small. -/
def numberToken (line : Nat) (chars : List Char) : Token × List Char :=
  match unsignedReal? (chars.map fun c => if c = 'x' ∨ c = 'X' then ' ' else c) with
  | none => (.unexpected '.', chars.drop 1)
  | some (x, rest) =>
    let spelling := chars.take (chars.length - rest.length)
    let digits := (spelling.takeWhile fun c => c ≠ 'e' ∧ c ≠ 'E').filter Char.isDigit
    let tiny : Bool := match x with
      | .finite _ m _ => m < Binary64.hiddenBit && digits.any (· ≠ '0')
      | _ => false
    if x.isInfinite || tiny then
      (.broken s!"line {line}: {String.ofList spelling} : decimal overflow", [])
    else (.number x.toFloat (String.ofList spelling), chars.drop spelling.length)

/-! ### Whole programs -/

/-- The tokens from here on, each with its line: how many braces are open, and the token before. -/
def tokensFrom : (fuel line braces : Nat) → (previous : Token) → List Char → List (Token × Nat)
  | 0, line, _, _, _ => [(.finish, line)]
  | fuel + 1, line, braces, previous, chars =>
    let single (token : Token) (rest : List Char) : List (Token × Nat) :=
      (token, line) :: tokensFrom fuel line braces token rest
    let overLines (token : Token) (braces : Nat) (rest : List Char) : List (Token × Nat) :=
      let (next, rest) := skipLines (rest.length + 1) line rest
      (token, line) :: tokensFrom fuel next braces token rest
    let cut (chars : List Char) : String :=
      String.ofList ((chars.takeWhile (· ≠ '\n')).take 10)
    match chars with
    | [] => [(.finish, line)]
    | '\n' :: rest =>
      let (next, rest) := skipLines (rest.length + 1) (line + 1) rest
      (.newline, line) :: tokensFrom fuel next braces .newline rest
    | '\\' :: '\n' :: rest => tokensFrom fuel (line + 1) braces previous rest
    | '#' :: rest => tokensFrom fuel line braces previous (rest.dropWhile (· ≠ '\n'))
    | ';' :: rest => overLines .semicolon braces rest
    | '\x7b' :: rest => overLines (.mark "\x7b") (braces + 1) rest
    | '\x7d' :: rest =>
      let rest' := rest.dropWhile fun c => c = ' ' ∨ c = '\t'
      let behind (braces : Nat) : List Char :=
        if braces = 0 ∧ rest'.head? = some ';' then rest'.drop 1 else rest
      if braces = 0 then
        (.complaint s!"line {line}: extra '\x7d'", line) ::
          tokensFrom fuel line 0 previous (behind 0)
      -- a statement may end without a mark before a closing brace, so one is put in
      else if previous.endsStatement then
        overLines (.mark "\x7d") (braces - 1) (behind (braces - 1))
      else single .implied chars
    | '"' :: rest =>
      match textBody (rest.length + 1) rest with
      | some (text, lines, rest) =>
        (.text text, line) :: tokensFrom fuel (line + lines) braces (.text text) rest
      | none => [(.broken s!"line {line}: runaway string constant \"{cut rest} ...", line)]
    | '/' :: rest =>
      -- behind an operand a slash divides, elsewhere a pattern begins
      if previous.endsOperand then
        match rest with
        | '=' :: rest => single (.mark "/=") rest
        | rest => single (.mark "/") rest
      else
        match patternBody (rest.length + 1) false rest with
        | some (text, rest) => single (.pattern text) rest
        | none => [(.broken s!"line {line}: runaway regular expression /{cut rest} ...", line)]
    | c :: rest =>
      let pair := String.ofList [c, rest.headD ' ']
      if c ∈ [' ', '\t', '\r', '\x0b', '\x0c'] then tokensFrom fuel line braces previous rest
      else if pair ∈ doubleMarks then
        if pair ∈ ["&&", "||"] then overLines (.mark pair) braces (rest.drop 1)
        else single (.mark pair) (rest.drop 1)
      else if c = ',' then overLines (.mark ",") braces rest
      else if singleMarks.contains c then single (.mark (String.singleton c)) rest
      else if c.isDigit ∨ (c = '.' ∧ rest.head?.any Char.isDigit) then
        let (token, rest) := numberToken line chars
        single token rest
      else if isNameChar c then
        let word := String.ofList (chars.takeWhile isNameChar)
        let rest := chars.drop word.length
        if word ∈ ["do", "else"] then overLines (.keyword word) braces rest
        else if word ∈ reservedWords then single (.keyword word) rest
        else
          match builtins.lookup word with
          | some function => single (.builtin function) rest
          -- only a bracket right behind the name makes it a call
          | none => single (if rest.head? = some '(' then .call word else .name word) rest
      else single (.unexpected c) rest

/-- The tokens of a program. -/
def tokensOf (chars : List Char) : List (Token × Nat) :=
  let chars := chars ++ ['\n']
  let (line, rest) := skipLines (chars.length + 1) 1 chars
  tokensFrom (2 * rest.length + 2) line 0 .newline rest

end Awk

end Shell

end TreeOutline
