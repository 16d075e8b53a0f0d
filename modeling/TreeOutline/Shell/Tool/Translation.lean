import TreeOutline.Shell.Tool.Letters

namespace TreeOutline

/-!
# Characters in the place of others

* `Shell.SetPart` — a part of a set of characters as it is written; `Shell.readSet` reads them.
* `Shell.SetFault` — why a set cannot be used.
* `Shell.squeeze` — runs of a character made one; `not_mem_of_squeeze_eq` — none is left.
* `Shell.tr` — other characters in the place of some.
-/

namespace Shell

/-- A part of a set of characters: characters one by one, a class, the characters that count as one
of them, and a character as often as it is said or as it is needed. -/
inductive SetPart where
  | letters (chars : List Char)
  | named (name : String) (chars : List Char)
  | equal (c : Char)
  | filled (c : Char) (count : Option Nat)

/-- Why a set of characters cannot be used. -/
inductive SetFault where
  | unknownClass (name : String)
  | missingClass
  | missingEqual
  | longEqual (text : String)
  | badCount (text : String)
  | reversedRange (first last : Char)
  | fillInFirst
  | fillTwice
  | equalInSecond
  | classInSecond
  | misaligned
  | emptySecond
  | classAtEnd
  | manyForOthers
  | fillUnused
deriving DecidableEq, Repr

/-- A character as it is shown in a message. -/
def shownInRange (c : Char) : String :=
  if ' ' ≤ c ∧ c ≤ '~' then String.singleton c
  else
    let digits := Nat.toDigits 8 c.toNat
    "\\" ++ String.ofList (List.replicate (3 - digits.length) '0' ++ digits)

/-- The wording of a fault. -/
def SetFault.message : SetFault → String
  | .unknownClass name => s!"invalid character class '{name}'"
  | .missingClass => "missing character class name '[::]'"
  | .missingEqual => "missing equivalence class character '[==]'"
  | .longEqual text => s!"{text}: equivalence class operand must be a single character"
  | .badCount text => s!"invalid repeat count '{text}' in [c*n] construct"
  | .reversedRange first last =>
    "range-endpoints of '" ++ shownInRange first ++ "-" ++ shownInRange last ++
      "' are in reverse collating sequence order"
  | .fillInFirst => "the [c*] repeat construct may not appear in string1"
  | .fillTwice => "only one [c*] repeat construct may appear in string2"
  | .equalInSecond => "[=c=] expressions may not appear in string2 when translating"
  | .classInSecond =>
    "when translating, the only character classes that may appear in\n" ++
      "string2 are 'upper' and 'lower'"
  | .misaligned => "misaligned [:upper:] and/or [:lower:] construct"
  | .emptySecond => "when not truncating set1, string2 must be non-empty"
  | .classAtEnd =>
    "when translating with string1 longer than string2,\n" ++
      "the latter string must not end with a character class"
  | .manyForOthers =>
    "when translating with complemented character classes,\n" ++
      "string2 must map all characters in the domain to one"
  | .fillUnused => "the [c*] construct may appear in string2 only when translating"

/-! ### Reading sets -/

/-- The letters up to a mark in front of a closing bracket, and what follows. -/
def upToClosing? (mark : Char) : List (Char × Bool) →
    Option (List (Char × Bool) × List (Char × Bool))
  | [] => none
  | letter :: rest =>
    if letter = (mark, false) ∧ rest.head? = some (']', false) then some ([], rest.drop 1)
    else (upToClosing? mark rest).map fun (text, behind) => (letter :: text, behind)

/-- A number of times in a set, in base eight behind a zero; zero and nothing stand for as often as
it is needed. -/
def fillCount? (text : List Char) : Option (Option Nat) :=
  let octal := text.head? = some '0'
  if text.any fun c => !(if octal then isOctal c else c.isDigit) then none
  else
    let n := text.foldl (fun n c => (if octal then 8 else 10) * n + digitValue c) 0
    some (if n = 0 then none else some n)

/-- A part of a set behind its opening bracket, and what follows, if it is one of those in
brackets. -/
def bracketed? (letters : List (Char × Bool)) :
    Except SetFault (Option (SetPart × List (Char × Bool))) :=
  let text (letters : List (Char × Bool)) : String := String.ofList (letters.map (·.1))
  -- a bracket that begins a class may still turn out to be a character to fill with
  let fill : Except SetFault (Option (SetPart × List (Char × Bool))) :=
    match letters with
    | (c, _) :: ('*', false) :: rest =>
      let count := rest.takeWhile (· ≠ (']', false))
      match rest.drop count.length with
      | [] => .ok none
      | _ :: behind =>
        match fillCount? (count.map (·.1)) with
        | some n => .ok (some (.filled c n, behind))
        | none => .error (.badCount (text count))
    | _ => .ok none
  match letters with
  | (':', false) :: rest =>
    match upToClosing? ':' rest with
    | some ([], _) => .error .missingClass
    | some (name, behind) =>
      match classChars? (text name), fill with
      | some chars, _ => .ok (some (.named (text name) chars, behind))
      | none, .ok (some found) => .ok (some found)
      | none, _ => .error (.unknownClass (text name))
    | none => fill
  | ('=', false) :: rest =>
    match upToClosing? '=' rest with
    | some ([], _) => .error .missingEqual
    | some ([(c, _)], behind) => .ok (some (.equal c, behind))
    | some (name, _) =>
      match fill with
      | .ok (some found) => .ok (some found)
      | _ => .error (.longEqual (text name))
    | none => fill
  | _ => fill

/-- The parts of a set. -/
def readSetParts : (fuel : Nat) → List (Char × Bool) → Except SetFault (List SetPart)
  | 0, _ => .ok []
  | fuel + 1, letters => do
    match letters with
    | [] => .ok []
    | (first, masked) :: rest =>
      let bracket ← if first = '[' ∧ ¬ masked ∧ 2 ≤ rest.length then bracketed? rest else .ok none
      match bracket, rest with
      | some (part, behind), _ => do
        let parts ← readSetParts fuel behind
        .ok (part :: parts)
      | none, ('-', false) :: (last, _) :: behind => do
        if last < first then .error (.reversedRange first last)
        let parts ← readSetParts fuel behind
        .ok (.letters (charRange first last) :: parts)
      | none, rest => do
        let parts ← readSetParts fuel rest
        .ok (.letters [first] :: parts)

/-- Reads a set of characters. -/
def readSet (text : String) : Except SetFault (List SetPart) :=
  let letters := setLetters (text.length + 1) text.toList
  readSetParts (letters.length + 1) letters

namespace SetPart

/-- The characters of a part, with `needed` of those that fill a set. -/
def chars (needed : Nat) : SetPart → List Char
  | .letters chars | .named _ chars => chars
  | .equal c => [c]
  | .filled c count => List.replicate (count.getD needed) c

/-- Whether a part fills a set. -/
def fills : SetPart → Bool
  | .filled _ none => true
  | _ => false

/-- Whether a part is a class of letters of one case. -/
def isCase : SetPart → Bool
  | .named name _ => name == "upper" || name == "lower"
  | _ => false

/-- Whether a part is a class. -/
def isClass : SetPart → Bool
  | .named .. => true
  | _ => false

/-- The places in a set at which classes of letters of one case begin, counting these as one. -/
def casePlaces : (place : Nat) → List SetPart → List Nat
  | _, [] => []
  | place, part :: rest =>
    if part.isCase then place :: casePlaces (place + 1) rest
    else casePlaces (place + (part.chars 0).length) rest

end SetPart

/-- The characters of a set. -/
def setChars (needed : Nat) (parts : List SetPart) : List Char :=
  parts.flatMap (SetPart.chars needed)

/-- The set of those that stand in the place of others, made as long as it has to be.  `complement`
tells that the others are those outside of a set. -/
def targetChars (complement truncated : Bool) (first : List SetPart) (source : List Char)
    (second : List SetPart) : Except SetFault (List Char) := do
  let known := (setChars 0 second).length
  let target := setChars (source.length - known) second
  if 1 < (second.filter SetPart.fills).length then .error .fillTwice
  if second.any fun
    | .equal _ => true
    | _ => false then .error .equalInSecond
  if second.any fun part => part.isClass && !part.isCase then .error .classInSecond
  if ¬ complement ∧ (SetPart.casePlaces 0 second).any
      (· ∉ SetPart.casePlaces 0 first) then .error .misaligned
  if target.length < source.length ∧ ¬ truncated then
    if target.isEmpty then .error .emptySecond
    if second.getLast?.any SetPart.isClass then .error .classAtEnd
  let target := target ++
    List.replicate (if truncated then 0 else source.length - target.length) (target.getLastD ' ')
  if complement ∧ first.any SetPart.isClass ∧
      (target.length ≠ source.length ∨ target.any (some · ≠ target.head?)) then
    .error .manyForOthers
  .ok target

/-! ### The tool -/

/-- Squeezes runs of one character out of a set into one. -/
def squeeze (set : List Char) : List Char → List Char
  | [] => []
  | [c] => [c]
  | a :: b :: rest =>
    if a = b ∧ set.contains a then squeeze set (b :: rest) else a :: squeeze set (b :: rest)

/-- Squeezing takes characters away and changes none. -/
theorem squeeze_sublist (set text : List Char) : (squeeze set text).Sublist text := by
  fun_induction squeeze set text with
  | case1 => exact .slnil
  | case2 c => exact List.Sublist.refl _
  | case3 a b rest hrun ih => exact ih.cons a
  | case4 a b rest hrun ih => exact ih.cons_cons a

/-- What is squeezed begins as the text did. -/
theorem head?_squeeze (set text : List Char) : (squeeze set text).head? = text.head? := by
  fun_induction squeeze set text with
  | case1 | case2 => rfl
  | case3 a b rest hrun ih => rw [ih, hrun.1]; rfl
  | case4 a b rest hrun ih => rfl

/-- **No run is left** of a character out of the set. -/
theorem not_mem_of_squeeze_eq {set text front back : List Char} {a : Char}
    (h : squeeze set text = front ++ a :: a :: back) : a ∉ set := by
  fun_induction squeeze set text generalizing front with
  | case1 => simp at h
  | case2 c =>
    have hlength := congrArg List.length h
    simp only [List.length_append, List.length_cons, List.length_nil] at hlength
    omega
  | case3 first next rest hrun ih => exact ih h
  | case4 first next rest hrun ih =>
    cases front with
    | nil =>
      obtain ⟨hfirst, hrest⟩ := List.cons.inj h
      have hnext : next = a := by
        have hhead := head?_squeeze set (next :: rest)
        rw [hrest] at hhead
        exact (Option.some.inj hhead).symm
      subst hfirst hnext
      exact fun hmem => hrun ⟨rfl, List.contains_iff_mem.2 hmem⟩
    | cons other front => exact ih (List.cons.inj h).2

/-- A text without such runs stays as it is. -/
theorem squeeze_eq_self {set text : List Char}
    (h : ∀ front back a, text = front ++ a :: a :: back → a ∉ set) : squeeze set text = text := by
  fun_induction squeeze set text with
  | case1 | case2 => rfl
  | case3 first next rest hrun ih =>
    obtain ⟨rfl, hmem⟩ := hrun
    exact absurd (List.contains_iff_mem.1 hmem) (h [] rest first rfl)
  | case4 first next rest hrun ih =>
    rw [ih fun front back a heq => h (first :: front) back a (by rw [heq]; rfl)]

/-- Squeezing twice is squeezing once. -/
theorem squeeze_squeeze (set text : List Char) :
    squeeze set (squeeze set text) = squeeze set text :=
  squeeze_eq_self fun _ _ _ => not_mem_of_squeeze_eq

/-- Replaces the characters of one set by those of another, whose last one is used for the rest;
`-d` deletes them, `-s` squeezes runs, `-c` takes all other characters. -/
def tr (task : Task) : Report :=
  let table : OptionTable := ⟨"dscCt", "", [("delete", 'd'), ("squeeze-repeats", 's'),
    ("complement", 'c'), ("truncate-set1", 't')]⟩
  task.withOptions "tr" 1 table fun options words =>
    let complement := hasOption options 'c' || hasOption options 'C'
    let (deletes, squeezes) := (hasOption options 'd', hasOption options 's')
    let misused (text : String) : Report := .misused task "tr" 1 text
    let source (parts : List SetPart) : List Char :=
      let chars := setChars 0 parts
      if complement then ((List.range 256).map Char.ofNat).filter (!chars.contains ·) else chars
    let work (first : String) (second : Option String) : Except SetFault (List Char) := do
      let parts ← readSet first
      let others ← (second.map readSet).elim (.ok []) id
      let from' := source parts
      if parts.any SetPart.fills then .error .fillInFirst
      if ¬ deletes ∧ second.isSome then
        let truncated := hasOption options 't'
        let target ← targetChars complement truncated parts from' others
        let from' := if truncated then from'.take target.length else from'
        -- of two images of one character the later one counts
        let pairs := (from'.zip target).reverse
        let text := task.input.map fun c => (pairs.lookup c).getD c
        .ok (if squeezes then squeeze target text else text)
      else if others.any SetPart.fills then .error .fillUnused
      else
        let kept := if deletes then task.input.filter (!from'.contains ·) else task.input
        .ok (if ¬ squeezes then kept
          else squeeze (if second.isSome then setChars 0 others else from') kept)
    let answer (first : String) (second : Option String) : Report :=
      match work first second with
      | .ok text => .printing text
      | .error fault => .complaining task 1 s!"tr: {fault.message}"
    match words with
    | [] => misused "missing operand"
    | [first] =>
      if deletes = squeezes then misused (s!"missing operand after '{first}'\n" ++
        (if deletes then "Two strings must be given when both deleting and squeezing repeats."
          else "Two strings must be given when translating."))
      else answer first none
    | [first, second] =>
      if deletes ∧ ¬ squeezes then misused (s!"extra operand '{second}'\n" ++
        "Only one string may be given when deleting without squeezing repeats.")
      else answer first (some second)
    | _ :: second :: third :: _ =>
      misused ("extra operand '" ++ (if deletes ∧ ¬ squeezes then second else third) ++ "'")

end Shell

end TreeOutline
