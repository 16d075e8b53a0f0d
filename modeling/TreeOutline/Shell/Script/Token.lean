import TreeOutline.Shell.Script

namespace TreeOutline

/-!
# The characters of scripts

* `Shell.ScriptFault` — why a script cannot be read; `ScriptFault.message` is its wording.
* `Shell.skipBlanks`, `Shell.skipLines` — what may stand between words.
* `Shell.operator?`, `Shell.redirection?`, `Shell.bareWord?`, `Shell.parameterName?` — what stands
  at the start of a script, and the rest behind it; both together are the script
  (`append_of_operator?`, `append_of_bareWord?` and so on).
* `Shell.tokenName` — what stands there, as messages name it.
-/

namespace Shell

/-! ### Faults -/

/-- Why a script cannot be read. -/
inductive ScriptFault where
  | unterminatedQuote
  | unterminatedBackquote
  | missingBrace
  | missingParentheses
  | badLoopVariable
  | badFunctionName
  | unexpected (token : String) (expecting : Option String)
deriving DecidableEq, Repr

namespace ScriptFault

/-- The wording of a fault. -/
def message : ScriptFault → String
  | .unterminatedQuote => "Syntax error: Unterminated quoted string"
  | .unterminatedBackquote => "Syntax error: EOF in backquote substitution"
  | .missingBrace => "Syntax error: Missing '\x7d'"
  | .missingParentheses => "Syntax error: Missing '))'"
  | .badLoopVariable => "Syntax error: Bad for loop variable"
  | .badFunctionName => "Syntax error: Bad function name"
  | .unexpected token none => s!"Syntax error: {token} unexpected"
  | .unexpected token (some word) => s!"Syntax error: {token} unexpected (expecting {word})"

end ScriptFault

/-- A fault and the number of the line in which it is found. -/
structure ScriptStop where
  fault : ScriptFault
  line : Nat
deriving DecidableEq, Repr

/-- The number of lines that end in a text. -/
def lineEnds (chars : List Char) : Nat := chars.countP (· = '\n')

/-- The number of the line that `rest` of a script with `ends` ends of lines begins in. -/
def lineAt (ends : Nat) (rest : List Char) : Nat := ends - lineEnds rest + 1

/-- A rest begins in the line behind all the ends of lines in front of it. -/
theorem lineAt_append (front rest : List Char) :
    lineAt (lineEnds (front ++ rest)) rest = lineEnds front + 1 := by
  simp only [lineAt, lineEnds, List.countP_append]
  omega

/-! ### Characters -/

/-- Whether a character ends a word. -/
def endsWord (c : Char) : Bool :=
  c ∈ [' ', '\t', '\n', ';', '&', '|', '<', '>', '(', ')']

/-- Whether a character means something else than itself inside of a word. -/
def isWordMark (c : Char) : Bool := c ∈ ['\'', '"', '\\', '$', '\x60']

/-- Whether a character may stand in a name. -/
def isNameChar (c : Char) : Bool := c.isAlphanum || c == '_'

/-- Whether a text is a name. -/
def isName (text : List Char) : Bool :=
  text.all isNameChar && text.head?.any fun c => !c.isDigit

/-- Skips blanks, line continuations and a comment. -/
def skipBlanks : List Char → List Char
  | ' ' :: rest => skipBlanks rest
  | '\t' :: rest => skipBlanks rest
  | '\\' :: '\n' :: rest => skipBlanks rest
  | '#' :: rest => rest.dropWhile (· ≠ '\n')
  | chars => chars

/-- Skips blanks, comments and empty lines, at most `fuel` of them. -/
def skipLines : (fuel : Nat) → List Char → List Char
  | 0, chars => chars
  | fuel + 1, chars =>
    match skipBlanks chars with
    | '\n' :: rest => skipLines fuel rest
    | chars => chars

/-- What is left behind blanks ends the script. -/
theorem skipBlanks_suffix (chars : List Char) : skipBlanks chars <:+ chars := by
  fun_induction skipBlanks chars with
  | case1 rest ih => exact ih.trans (List.suffix_cons _ _)
  | case2 rest ih => exact ih.trans (List.suffix_cons _ _)
  | case3 rest ih => exact ih.trans ((List.suffix_cons _ _).trans (List.suffix_cons _ _))
  | case4 rest => exact (List.dropWhile_suffix _).trans (List.suffix_cons _ _)
  | case5 chars => exact List.suffix_rfl

/-- What is left behind lines without a command ends the script. -/
theorem skipLines_suffix (fuel : Nat) (chars : List Char) : skipLines fuel chars <:+ chars := by
  induction fuel generalizing chars with
  | zero => exact List.suffix_rfl
  | succ fuel ih =>
    have hskipped := skipBlanks_suffix chars
    simp only [skipLines]
    split
    next rest heq => exact (ih rest).trans ((List.suffix_cons _ _).trans (heq ▸ hskipped))
    next => exact hskipped

/-! ### Words and operators -/

/-- Splits off a text at the start. -/
def dropText? (text : String) (chars : List Char) : Option (List Char) :=
  if text.toList.isPrefixOf chars then some (chars.drop text.length) else none

/-- A text is split off exactly where it stands at the start. -/
theorem dropText?_eq_some_iff {text : String} {chars rest : List Char} :
    dropText? text chars = some rest ↔ chars = text.toList ++ rest := by
  have hlength : text.length = text.toList.length := String.length_toList.symm
  constructor
  · intro h
    obtain ⟨hstart, heq⟩ := Option.ite_none_right_eq_some.1 h
    obtain ⟨behind, rfl⟩ := List.isPrefixOf_iff_prefix.1 hstart
    rw [hlength, List.drop_left, Option.some.injEq] at heq
    rw [heq]
  · rintro rfl
    rw [dropText?, if_pos (List.isPrefixOf_iff_prefix.2 (List.prefix_append _ _)), hlength,
      List.drop_left]

/-- The first text of a list that is split off stands in front of what is left. -/
theorem append_of_dropText? {texts : List String} {text : String} {chars rest : List Char}
    (h : texts.findSome? (fun text => (dropText? text chars).map fun rest => (text, rest)) =
      some (text, rest)) : text ∈ texts ∧ chars = text.toList ++ rest := by
  obtain ⟨other, hother, hdropped⟩ := List.exists_of_findSome?_eq_some h
  obtain ⟨behind, hbehind, heq⟩ := Option.map_eq_some_iff.1 hdropped
  obtain ⟨rfl, rfl⟩ := Prod.mk.inj heq
  exact ⟨hother, dropText?_eq_some_iff.1 hbehind⟩

/-- The operators between commands, longer ones first. -/
def operators : List String := ["&&", "||", ";;", ";", "&", "|", "(", ")"]

/-- The operator at the start, and the rest. -/
def operator? (chars : List Char) : Option (String × List Char) :=
  operators.findSome? fun text => (dropText? text chars).map fun rest => (text, rest)

/-- The operator that is read stands at the start. -/
theorem append_of_operator? {chars rest : List Char} {text : String}
    (h : operator? chars = some (text, rest)) : text ∈ operators ∧ chars = text.toList ++ rest :=
  append_of_dropText? h

/-- The word at the start, if nothing in it means anything else than itself. -/
def bareWord? (chars : List Char) : Option (String × List Char) :=
  let word := chars.takeWhile fun c => !endsWord c && !isWordMark c
  let rest := chars.drop word.length
  if word.isEmpty ∨ rest.head?.any isWordMark then none else some (String.ofList word, rest)

/-- The word that is read stands at the start, is not empty, and has no character that ends a word
or means something else than itself. -/
theorem append_of_bareWord? {chars rest : List Char} {text : String}
    (h : bareWord? chars = some (text, rest)) :
    chars = text.toList ++ rest ∧ text.toList ≠ [] ∧
      ∀ c ∈ text.toList, endsWord c = false ∧ isWordMark c = false := by
  obtain ⟨hword, heq⟩ := Option.ite_none_left_eq_some.1 h
  obtain ⟨rfl, rfl⟩ := Prod.mk.inj (Option.some.inj heq)
  rw [String.toList_ofList]
  refine ⟨(List.prefix_iff_eq_append.1 (List.takeWhile_prefix _)).symm, ?_, fun c hc => ?_⟩
  · intro hnil
    exact hword (.inl (List.isEmpty_iff.2 hnil))
  · simpa using List.all_eq_true.1 List.all_takeWhile c hc

/-- The operators that redirect a stream, longer ones first. -/
def redirectors : List String := ["<<-", "<<", "<&", "<>", "<", ">>", ">&", ">|", ">"]

/-- A redirection's stream, operator, and the rest. -/
def redirection? (chars : List Char) : Option (Option Nat × String × List Char) :=
  let (stream, rest) := match chars with
    | d :: rest => if d.isDigit then (some (d.toNat - '0'.toNat), rest) else (none, chars)
    | [] => (none, [])
  redirectors.findSome? fun text => (dropText? text rest).map fun rest => (stream, text, rest)

/-- Words that have a meaning of their own where a command may begin. -/
def keywords : List String :=
  ["!", "case", "do", "done", "elif", "else", "esac", "fi", "for", "if", "in", "then", "until",
    "while", "\x7b", "\x7d"]

/-- The keywords and operators that end a list of commands. -/
def closers : List String := ["do", "done", "elif", "else", "esac", "fi", "then", "\x7d", ")", ";;"]

/-- The keyword at the start, and the rest. -/
def keyword? (chars : List Char) : Option (String × List Char) :=
  (bareWord? chars).filter (·.1 ∈ keywords)

/-- So does the keyword that is read. -/
theorem append_of_keyword? {chars rest : List Char} {text : String}
    (h : keyword? chars = some (text, rest)) : text ∈ keywords ∧ chars = text.toList ++ rest := by
  obtain ⟨hread, hkeyword⟩ := Option.filter_eq_some_iff.1 h
  exact ⟨by simpa using hkeyword, (append_of_bareWord? hread).1⟩

/-- Whether a list of commands ends here. -/
def atCloser (chars : List Char) : Bool :=
  chars.isEmpty || ((keyword? chars).or (operator? chars)).any (·.1 ∈ closers)

/-- The names of commands whose faults end a script; no function can have them. -/
def specialNames : List String :=
  [":", ".", "break", "continue", "eval", "exec", "exit", "export", "readonly", "return", "set",
    "shift", "times", "trap", "unset"]

/-- A word or operator between quotes. -/
def inQuotes (text : String) : String := "\"" ++ text ++ "\""

/-- What stands at the start, as messages name it. -/
def tokenName (keywordsCount : Bool) (chars : List Char) : String :=
  match chars with
  | [] => "end of file"
  | '\n' :: _ => "newline"
  | chars =>
    if (redirection? chars).isSome then "redirection"
    else
      match operator? chars, (keyword? chars).filter fun _ => keywordsCount with
      | some (text, _), _ | none, some (text, _) => inQuotes text
      | none, none => "word"

/-- The stop at what stands at the start, where something else may be expected. -/
def unexpected (ends : Nat) (keywordsCount : Bool) (expecting : Option String)
    (chars : List Char) : ScriptStop :=
  let behind := match chars with
    | '\n' :: rest => rest
    | chars => chars
  ⟨.unexpected (tokenName keywordsCount chars) expecting, lineAt ends behind⟩

/-- A setting's name and the text behind its equals sign. -/
def settingName? (chars : List Char) : Option (String × List Char) :=
  let name := chars.takeWhile isNameChar
  match chars.drop name.length with
  | '=' :: rest => if isName name then some (String.ofList name, rest) else none
  | _ => none

/-- A setting is a name, an equals sign and the text behind it. -/
theorem append_of_settingName? {chars rest : List Char} {name : String}
    (h : settingName? chars = some (name, rest)) :
    chars = name.toList ++ '=' :: rest ∧ isName name.toList = true := by
  have hchars := List.prefix_iff_eq_append.1 (List.takeWhile_prefix isNameChar (l := chars))
  simp only [settingName?] at h
  split at h
  next behind heq =>
    obtain ⟨hname, heq'⟩ := Option.ite_none_right_eq_some.1 h
    obtain ⟨rfl, rfl⟩ := Prod.mk.inj (Option.some.inj heq')
    rw [String.toList_ofList, ← heq]
    exact ⟨hchars.symm, hname⟩
  next => cases h

/-- The name of a parameter at the start: a word, a digit or a special character. -/
def parameterName? : List Char → Option (String × List Char)
  | [] => none
  | c :: rest =>
    if c.isDigit ∨ c ∈ ['?', '$', '#', '@', '*', '!', '-'] then some (String.singleton c, rest)
    else if isNameChar c then
      some (String.ofList (c :: rest.takeWhile isNameChar), rest.dropWhile isNameChar)
    else none

/-- The name of a parameter stands at the start and is not empty. -/
theorem append_of_parameterName? {chars rest : List Char} {name : String}
    (h : parameterName? chars = some (name, rest)) :
    chars = name.toList ++ rest ∧ name.toList ≠ [] := by
  cases chars with
  | nil => cases h
  | cons c behind =>
    rw [parameterName?] at h
    split at h
    · obtain ⟨rfl, rfl⟩ := Prod.mk.inj (Option.some.inj h)
      simp
    · obtain ⟨-, heq⟩ := Option.ite_none_right_eq_some.1 h
      obtain ⟨rfl, rfl⟩ := Prod.mk.inj (Option.some.inj heq)
      simp

/-- The name of a parameter between braces, where a number may have several digits. -/
def bracedName? (chars : List Char) : Option (String × List Char) :=
  let digits := chars.takeWhile Char.isDigit
  if digits.isEmpty then parameterName? chars
  else some (String.ofList digits, chars.drop digits.length)

/-! ### Texts in the script -/

/-- The text up to a closing backquote, in which a backslash masks three characters. -/
def backquoted? : List Char → Option (List Char × List Char)
  | [] => none
  | '\x60' :: rest => some ([], rest)
  | '\\' :: c :: rest =>
    (backquoted? rest).map fun (text, rest) =>
      (if c ∈ ['\x60', '\\', '$'] then c :: text else '\\' :: c :: text, rest)
  | c :: rest => (backquoted? rest).map fun (text, rest) => (c :: text, rest)

/-- What is left behind a text between backquotes ends the script. -/
theorem backquoted?_suffix {chars text rest : List Char}
    (h : backquoted? chars = some (text, rest)) : rest <:+ chars := by
  fun_induction backquoted? chars generalizing text with
  | case1 => cases h
  | case2 behind =>
    obtain ⟨rfl, rfl⟩ := Prod.mk.inj (Option.some.inj h)
    exact List.suffix_cons _ _
  | case3 c behind ih =>
    obtain ⟨⟨inner, after⟩, hinner, heq⟩ := Option.map_eq_some_iff.1 h
    obtain ⟨rfl, rfl⟩ := Prod.mk.inj heq
    exact (ih hinner).trans ((List.suffix_cons _ _).trans (List.suffix_cons _ _))
  | case4 c behind hquote hmask ih =>
    obtain ⟨⟨inner, after⟩, hinner, heq⟩ := Option.map_eq_some_iff.1 h
    obtain ⟨rfl, rfl⟩ := Prod.mk.inj heq
    exact (ih hinner).trans (List.suffix_cons _ _)

/-- The lines up to a delimiter, which is left out, and the rest behind it.  With `outdented` the
tabs in front of each line are left out, too. -/
def hereLines (outdented : Bool) (delimiter : List Char) : (fuel : Nat) → List Char →
    List Char × List Char
  | 0, rest => ([], rest)
  | fuel + 1, rest =>
    let written := rest.takeWhile (· ≠ '\n')
    let line := if outdented then written.dropWhile (· = '\t') else written
    let after := (rest.drop written.length).drop 1
    if rest.isEmpty then ([], [])
    else if line = delimiter then ([], after)
    else
      let (content, rest) := hereLines outdented delimiter fuel after
      (line ++ '\n' :: content, rest)

/-- What is left behind the lines of a redirection ends the script. -/
theorem hereLines_suffix (outdented : Bool) (delimiter : List Char) (fuel : Nat)
    (chars : List Char) : (hereLines outdented delimiter fuel chars).2 <:+ chars := by
  induction fuel generalizing chars with
  | zero => exact List.suffix_rfl
  | succ fuel ih =>
    have hafter : (chars.drop (chars.takeWhile (· ≠ '\n')).length).drop 1 <:+ chars :=
      (List.drop_suffix _ _).trans (List.drop_suffix _ _)
    rw [hereLines]
    -- whether tabs are left out makes no difference to what is left
    generalize (if outdented then (chars.takeWhile (· ≠ '\n')).dropWhile (· = '\t')
      else chars.takeWhile (· ≠ '\n')) = line
    split
    · exact List.nil_suffix
    · split
      · exact hafter
      · exact (ih _).trans hafter

end Shell

end TreeOutline
