import TreeOutline.Shell.Tool.Letters

namespace TreeOutline

/-!
# Patterns of text

* `Shell.Pattern` — what a pattern consists of; `Pattern.read` reads one in either notation.
* `Shell.PatternFault` — why one cannot be read; `PatternFault.message` is its wording.
* `Pattern.places` — the places a match may reach, the greediest first; it stays in its text
  (`Pattern.reaches_of_mem_places`).
* `Pattern.find?` — the first match in a text, and of those that begin there the longest
  (`Place.furthest?_eq_some`).
-/

namespace Shell

/-- The place of a word. -/
inductive Boundary where
  | begins
  | ends
  | either
  | neither
deriving DecidableEq, Repr

/-- A pattern. -/
inductive Pattern where
  | empty
  | letter (c : Char)
  | anyLetter
  | oneOf (negated : Bool) (letters : List Char)
  | start
  | finish
  /-- The start and the end of a line within a text. -/
  | lineStart
  | lineFinish
  /-- A place where a word begins, where one ends, or where neither is. -/
  | boundary (kind : Boundary)
  | sequence (first second : Pattern)
  | choice (first second : Pattern)
  | repeated (pattern : Pattern) (least : Nat) (most : Option Nat)
  | group (number : Nat) (pattern : Pattern)
  | sameAs (number : Nat)
deriving Repr, Inhabited

/-- A place in a text: the letters before it, latest first, those behind it, and what the groups
have matched. -/
structure Place where
  before : List Char
  rest : List Char
  groups : List (Nat × List Char)

namespace Place

/-- Passes over some bytes. -/
def skip (place : Place) (count : Nat) : Place :=
  { place with
    before := (place.rest.take count).reverse ++ place.before
    rest := place.rest.drop count }

/-- Passes over the next letter if it is of a kind; it is given by its bytes. -/
def pass (place : Place) (p : List Char → Bool) : List Place :=
  let letter := firstLetter place.rest
  if !letter.isEmpty && p letter then [place.skip letter.length] else []

/-- Passes over the next letter. -/
def next (place : Place) : Place := place.skip (firstLetter place.rest).length

/-- Whether a byte may stand in a word. -/
def isWordByte (c : Char) : Bool := c.isAlphanum || c == '_'

/-- Whether there is a boundary of a kind here. -/
def hasBoundary (place : Place) (kind : Boundary) : Bool :=
  let before := place.before.head?.any isWordByte
  let behind := place.rest.head?.any isWordByte
  match kind with
  | .begins => !before && behind
  | .ends => before && !behind
  | .either => before != behind
  | .neither => before == behind

/-- The bytes between an earlier place and this one. -/
def since (place earlier : Place) : List Char := earlier.rest.take
  (earlier.rest.length - place.rest.length)

/-- Of two places the one that leaves less behind it, of equal ones the first. -/
def further : Option Place → Place → Option Place
  | some found, next => if next.rest.length < found.rest.length then some next else some found
  | none, next => some next

/-- The place that leaves least behind it, of several the first. -/
def furthest? (places : List Place) : Option Place := places.foldl further none

/-- The whole text in which a place is. -/
def text (place : Place) : List Char := place.before.reverse ++ place.rest

/-- A place from which another one has been reached by passing over letters. -/
structure Reaches (earlier later : Place) : Prop where
  text_eq : later.text = earlier.text
  suffix : later.rest <:+ earlier.rest

theorem Reaches.refl (place : Place) : place.Reaches place := ⟨rfl, List.suffix_rfl⟩

/-- What is reached from a place that is reached is reached. -/
theorem Reaches.trans {a b c : Place} (hab : a.Reaches b) (hbc : b.Reaches c) : a.Reaches c :=
  ⟨hbc.text_eq.trans hab.text_eq, hbc.suffix.trans hab.suffix⟩

/-- A place that is reached has no less text before it. -/
theorem Reaches.length_before_le {earlier later : Place} (h : earlier.Reaches later) :
    earlier.before.length ≤ later.before.length := by
  have htext := congrArg List.length h.text_eq
  have hrest := h.suffix.length_le
  simp [text] at htext
  omega

/-- Skipping characters reaches a place. -/
theorem reaches_skip (place : Place) (count : Nat) : place.Reaches (place.skip count) := by
  refine ⟨?_, List.drop_suffix count place.rest⟩
  simp [text, skip]

/-- So does passing one. -/
theorem reaches_of_mem_pass {place next : Place} {p : List Char → Bool}
    (h : next ∈ place.pass p) : place.Reaches next := by
  rw [pass] at h
  split at h
  · rw [List.mem_singleton.1 h]
    exact place.reaches_skip _
  · exact absurd h List.not_mem_nil

/-- **What lies between two places** and what is behind the later one make up what is behind the
earlier one. -/
theorem Reaches.since_append {earlier later : Place} (h : earlier.Reaches later) :
    later.since earlier ++ later.rest = earlier.rest := by
  obtain ⟨front, hfront⟩ := h.suffix
  rw [since, ← hfront, List.length_append, Nat.add_sub_cancel, List.take_left]

/-- From a place on, the furthest of it and the places that follow is found. -/
theorem foldl_further (found : Place) (places : List Place) :
    ∃ last, places.foldl further (some found) = some last ∧ last ∈ found :: places ∧
      ∀ next ∈ found :: places, last.rest.length ≤ next.rest.length := by
  induction places generalizing found with
  | nil => exact ⟨found, rfl, List.mem_cons_self, by simp⟩
  | cons place places ih =>
    rw [List.foldl_cons, further]
    split
    next hlt =>
      obtain ⟨last, hlast, hmem, hleast⟩ := ih place
      refine ⟨last, hlast, List.mem_cons_of_mem found hmem, List.forall_mem_cons.2 ⟨?_, hleast⟩⟩
      exact Nat.le_of_lt (Nat.lt_of_le_of_lt (hleast place List.mem_cons_self) hlt)
    next hge =>
      obtain ⟨last, hlast, hmem, hleast⟩ := ih found
      obtain ⟨hfound, hrest⟩ := List.forall_mem_cons.1 hleast
      refine ⟨last, hlast, ?_, List.forall_mem_cons.2 ⟨hfound, List.forall_mem_cons.2 ⟨?_, hrest⟩⟩⟩
      · exact List.mem_cons.2 ((List.mem_cons.1 hmem).imp_right (List.mem_cons_of_mem place))
      · exact Nat.le_trans hfound (Nat.not_lt.1 hge)

/-- **The furthest place** is one of those given, and leaves no more behind it than any of them. -/
theorem furthest?_eq_some {places : List Place} {last : Place}
    (h : furthest? places = some last) :
    last ∈ places ∧ ∀ next ∈ places, last.rest.length ≤ next.rest.length := by
  cases places with
  | nil => exact absurd h (by simp [furthest?])
  | cons place places =>
    obtain ⟨found, hfound, hlast⟩ := foldl_further place places
    obtain rfl := Option.some.inj (h.symm.trans hfound)
    exact hlast

/-- There is one exactly where there is a place at all. -/
theorem furthest?_eq_none_iff {places : List Place} : furthest? places = none ↔ places = [] := by
  cases places with
  | nil => simp [furthest?]
  | cons place places =>
    obtain ⟨found, hfound, -⟩ := foldl_further place places
    rw [furthest?, List.foldl_cons, further, hfound]
    simp

end Place

namespace Pattern

/-- The places that up to `fuel` repetitions reach, of which `least` are needed and `most` allowed.
A repetition that passes over nothing ends them. -/
def repeatPlaces (step : Place → List Place) : (fuel least : Nat) → (most : Option Nat) → Place →
    List Place
  | 0, least, _, place => if least = 0 then [place] else []
  | fuel + 1, least, most, place =>
    let further :=
      if most = some 0 then []
      else (step place).flatMap fun next =>
        if next.rest.length = place.rest.length then (if least ≤ 1 then [next] else [])
        else repeatPlaces step fuel (least - 1) (most.map (· - 1)) next
    if least = 0 then further ++ [place] else further

/-- Repetitions reach no other places than steps do. -/
theorem reaches_of_mem_repeatPlaces {step : Place → List Place}
    (hstep : ∀ place next, next ∈ step place → place.Reaches next) {fuel least : Nat}
    {most : Option Nat} {place next : Place} (h : next ∈ repeatPlaces step fuel least most place) :
    place.Reaches next := by
  induction fuel generalizing least most place with
  | zero =>
    rw [repeatPlaces] at h
    split at h
    · rw [List.mem_singleton.1 h]
      exact .refl place
    · exact absurd h List.not_mem_nil
  | succ fuel ih =>
    have hfurther (h : next ∈ (step place).flatMap fun next =>
        if next.rest.length = place.rest.length then (if least ≤ 1 then [next] else [])
        else repeatPlaces step fuel (least - 1) (most.map (· - 1)) next) :
        place.Reaches next := by
      obtain ⟨first, hfirst, h⟩ := List.mem_flatMap.1 h
      split at h
      · split at h
        · rw [List.mem_singleton.1 h]
          exact hstep place first hfirst
        · exact absurd h List.not_mem_nil
      · exact (hstep place first hfirst).trans (ih h)
    have hnow (h : next ∈ [place]) : place.Reaches next := by
      rw [List.mem_singleton.1 h]
      exact .refl place
    rw [repeatPlaces] at h
    split at h
    · split at h
      · exact hnow h
      · exact (List.mem_append.1 h).elim hfurther hnow
    · split at h
      · exact absurd h List.not_mem_nil
      · exact hfurther h

/-- The places that a match may reach, the greediest first. -/
def places (fold : Char → Char) : Pattern → Place → List Place
  | .empty, place => [place]
  | .letter c, place =>
    if place.rest.head?.any fun d => fold d == fold c then [place.skip 1] else []
  | .anyLetter, place => place.pass fun _ => true
  | .oneOf negated members, place =>
    place.pass fun letter =>
      (letter.all fun d => members.any fun c => fold c == fold d) != negated
  | .boundary kind, place => if place.hasBoundary kind then [place] else []
  | .start, place => if place.before.isEmpty then [place] else []
  | .finish, place => if place.rest.isEmpty then [place] else []
  | .lineStart, place => if place.before.head?.all (· = '\n') then [place] else []
  | .lineFinish, place => if place.rest.head?.all (· = '\n') then [place] else []
  | .sequence first second, place => (places fold first place).flatMap (places fold second)
  | .choice first second, place => places fold first place ++ places fold second place
  | .repeated pattern least most, place =>
    repeatPlaces (places fold pattern) (place.rest.length + least + 1) least most place
  | .group number pattern, place =>
    (places fold pattern place).map fun next =>
      { next with groups := (number, next.since place) :: next.groups }
  | .sameAs number, place =>
    match place.groups.lookup number with
    | some text => if text.isPrefixOf place.rest then [place.skip text.length] else []
    | none => []

/-- **A match stays in its text** and only moves on. -/
theorem reaches_of_mem_places {fold : Char → Char} {pattern : Pattern} {place next : Place}
    (h : next ∈ places fold pattern place) : place.Reaches next := by
  induction pattern generalizing place next with
  | sequence first second hfirst hsecond =>
    rw [places] at h
    obtain ⟨middle, hmiddle, h⟩ := List.mem_flatMap.1 h
    exact (hfirst hmiddle).trans (hsecond h)
  | choice first second hfirst hsecond =>
    rw [places] at h
    exact (List.mem_append.1 h).elim hfirst hsecond
  | repeated pattern least most ih =>
    rw [places] at h
    exact reaches_of_mem_repeatPlaces (fun _ _ => ih) h
  | group number pattern ih =>
    rw [places] at h
    obtain ⟨last, hlast, rfl⟩ := List.mem_map.1 h
    exact ⟨(ih hlast).text_eq, (ih hlast).suffix⟩
  | anyLetter | oneOf => exact Place.reaches_of_mem_pass h
  | letter c =>
    rw [places] at h
    split at h
    · rw [List.mem_singleton.1 h]; exact place.reaches_skip 1
    · exact absurd h List.not_mem_nil
  | sameAs number =>
    rw [places] at h
    split at h
    next text _ =>
      split at h
      · rw [List.mem_singleton.1 h]; exact place.reaches_skip _
      · exact absurd h List.not_mem_nil
    · exact absurd h List.not_mem_nil
  | empty =>
    rw [places] at h
    rw [List.mem_singleton.1 h]
    exact .refl place
  | start | finish | lineStart | lineFinish | boundary =>
    -- these ask for something at the place, and do not move on from it
    rw [places] at h
    split at h
    · rw [List.mem_singleton.1 h]; exact .refl place
    · exact absurd h List.not_mem_nil

/-- The longest match at a place, of several the greediest. -/
def longest? (fold : Char → Char) (pattern : Pattern) (place : Place) : Option Place :=
  Place.furthest? (places fold pattern place)

/-- The first match at a place or behind it: where it begins, and where it ends. -/
def find? (fold : Char → Char) (pattern : Pattern) : (fuel : Nat) → Place → Option (Place × Place)
  | 0, _ => none
  | fuel + 1, place =>
    match longest? fold pattern place, place.rest with
    | some last, _ => some (place, last)
    | none, [] => none
    | none, _ :: _ => find? fold pattern fuel place.next

/-- **What is found** is a match at a place that is reached from the first one, and lies in the same
text. -/
theorem reaches_of_find? {fold : Char → Char} {pattern : Pattern} {fuel : Nat}
    {place first last : Place} (h : find? fold pattern fuel place = some (first, last)) :
    place.Reaches first ∧ first.Reaches last ∧ last ∈ places fold pattern first := by
  induction fuel generalizing place with
  | zero => exact absurd h (by simp [find?])
  | succ fuel ih =>
    rw [find?] at h
    split at h
    next found _ hfound =>
      cases h
      have hmem := (Place.furthest?_eq_some hfound).1
      exact ⟨.refl first, reaches_of_mem_places hmem, hmem⟩
    next => exact absurd h (by simp)
    next =>
      obtain ⟨hfirst, hlast⟩ := ih h
      exact ⟨(place.reaches_skip _).trans hfirst, hlast⟩

/-- The first match in a text. -/
def findIn? (fold : Char → Char) (pattern : Pattern) (text : List Char) : Option (Place × Place) :=
  find? fold pattern (text.length + 1) ⟨[], text, []⟩

/-- A pattern for the lines of a text: where it asks for the start or the end of the text, those of
any line will do. -/
def byLines : Pattern → Pattern
  | .start => .lineStart
  | .finish => .lineFinish
  | .sequence first second => .sequence first.byLines second.byLines
  | .choice first second => .choice first.byLines second.byLines
  | .repeated pattern least most => .repeated pattern.byLines least most
  | .group number pattern => .group number pattern.byLines
  | pattern => pattern

/-- How many groups a pattern has. -/
def groupCount : Pattern → Nat
  | .sequence first second | .choice first second => first.groupCount + second.groupCount
  | .repeated pattern _ _ => pattern.groupCount
  | .group _ pattern => pattern.groupCount + 1
  | _ => 0

/-- Lines instead of texts change no groups. -/
theorem groupCount_byLines (pattern : Pattern) :
    pattern.byLines.groupCount = pattern.groupCount := by
  induction pattern with
  | sequence first second hfirst hsecond | choice first second hfirst hsecond =>
    rw [byLines, groupCount, hfirst, hsecond, groupCount]
  | repeated pattern least most ih | group number pattern ih =>
    rw [byLines, groupCount, ih, groupCount]
  | _ => rfl

end Pattern

/-! ### Reading patterns -/

/-- How patterns are written: with most marks behind a backslash, with bare ones, or with bare ones
that are text where they make no sense. -/
inductive Dialect where
  | basic
  | extended
  | lenient
deriving DecidableEq, Repr

/-- Why a pattern cannot be read. -/
inductive PatternFault where
  | unmatchedBracket
  | unmatchedOpening
  | unmatchedClosing
  | unmatchedBrace
  | badClass
  | classOutside
  | badCollation
  | badRange
  | badCount
  | tooBig
  | nothingToRepeat
  | badReference
  | trailingBackslash
deriving DecidableEq, Repr

/-- The wording of a fault. -/
def PatternFault.message : PatternFault → String
  | .unmatchedBracket => "Unmatched [, [^, [:, [., or [="
  | .unmatchedOpening => "Unmatched ( or \\("
  | .unmatchedClosing => "Unmatched ) or \\)"
  | .unmatchedBrace => "Unmatched \\\x7b"
  | .badClass => "Invalid character class name"
  | .classOutside => "character class syntax is [[:space:]], not [:space:]"
  | .badCollation => "Invalid collation character"
  | .badRange => "Invalid range end"
  | .badCount => "Invalid content of \\\x7b\\\x7d"
  | .tooBig => "Regular expression too big"
  | .nothingToRepeat => "Invalid preceding regular expression"
  | .badReference => "Invalid back reference"
  | .trailingBackslash => "Trailing backslash"

namespace Pattern

/-- The letters between brackets, whether all others are meant, and what follows. -/
def readSet (chars : List Char) : Except PatternFault (Pattern × List Char) := do
  let (negated, chars) := match chars with
    | '^' :: rest => (true, rest)
    | rest => (false, rest)
  let (opening, chars) := match chars with
    | ']' :: rest => ([(']', false)], rest)
    | rest => ([], rest)
  let (letters, rest) ← body (chars.length + 1) chars
  if 1 < letters.length ∧ letters.head? = some (':', false) ∧
      letters.getLast? = some (':', false) ∧ letters.any (·.1 ≠ ':') then
    .error .classOutside
  let letters := opening ++ letters
  if hasBadRange letters then .error .badRange
  else .ok (.oneOf negated (expandSet (letters.length + 1) letters), rest)
where
  /-- The letters up to the closing bracket, marking those of named classes. -/
  body : (fuel : Nat) → List Char → Except PatternFault (List (Char × Bool) × List Char)
    | 0, _ => .error .unmatchedBracket
    | fuel + 1, chars =>
      match chars with
      | [] => .error .unmatchedBracket
      | ']' :: rest => .ok ([], rest)
      | '[' :: ':' :: rest =>
        let name := rest.takeWhile (· ≠ ':')
        match rest.drop name.length, classChars? (String.ofList name) with
        | ':' :: ']' :: rest, some members => do
          let (letters, rest) ← body fuel rest
          .ok (members.map (fun c => (c, true)) ++ letters, rest)
        | ':' :: ']' :: _, none => .error .badClass
        | _, _ => .error .unmatchedBracket
      | '[' :: '.' :: c :: '.' :: ']' :: rest | '[' :: '=' :: c :: '=' :: ']' :: rest => do
        let (letters, rest) ← body fuel rest
        .ok ((c, true) :: letters, rest)
      | '[' :: '.' :: _ | '[' :: '=' :: _ => .error .badCollation
      | c :: rest => do
        let (letters, rest) ← body fuel rest
        .ok ((c, false) :: letters, rest)
  /-- Whether a range ends before it begins. -/
  hasBadRange : List (Char × Bool) → Bool
    | (low, _) :: ('-', false) :: (high, false) :: rest => high < low || hasBadRange rest
    | _ :: rest => hasBadRange rest
    | [] => false

/-- The letters up to a comma or the closing mark. -/
def upToCount (closing : List Char) : List Char → List Char × List Char
  | [] => ([], [])
  | c :: rest =>
    if c = ',' ∨ closing.isPrefixOf (c :: rest) then ([], c :: rest)
    else let (text, rest) := upToCount closing rest; (c :: text, rest)

/-- How often something may be repeated at most. -/
def mostRepetitions : Nat := 32767

/-- The numbers of a repetition in braces, and what follows; `none` where what stands there is
text. -/
def readCounts (dialect : Dialect) (chars : List Char) :
    Except PatternFault (Option ((Nat × Option Nat) × List Char)) :=
  let closing := if dialect = .basic then ['\\', '\x7d'] else ['\x7d']
  let fault (fault : PatternFault) :
      Except PatternFault (Option ((Nat × Option Nat) × List Char)) :=
    if dialect = .lenient then .ok none else .error fault
  let finish (least : Nat) (most : Option Nat) (rest : List Char) :
      Except PatternFault (Option ((Nat × Option Nat) × List Char)) :=
    if most.any (· < least) then .error .badCount
    else if mostRepetitions < max least (most.getD 0) then .error .tooBig
    else .ok (some ((least, most), rest.drop closing.length))
  let isNumber (text : List Char) : Bool := text.all Char.isDigit
  let number? (text : List Char) : Option Nat := natural? (String.ofList text)
  let (first, rest) := upToCount closing chars
  match rest with
  | [] => fault .unmatchedBrace
  | ',' :: behind =>
    let (second, rest) := upToCount closing behind
    if ¬ isNumber first then fault .badCount
    else if rest.isEmpty then fault .unmatchedBrace
    else if ¬ isNumber second ∨ ¬ closing.isPrefixOf rest then fault .badCount
    else finish ((number? first).getD 0) (number? second) rest
  | rest =>
    match isNumber first, number? first with
    | true, some n => finish n (some n) rest
    | _, _ => fault .badCount

/-- What stands at the start of a pattern. -/
inductive Mark where
  | single (pattern : Pattern)
  | many (least : Nat) (most : Option Nat)
  | opening
  | closing
  | bar

/-- The letters of words. -/
def wordLetters : List Char :=
  '_' :: ((List.range 128).map Char.ofNat).filter Char.isAlphanum

/-- The blanks. -/
def blankLetters : List Char := [' ', '\t', '\n', '\x0b', '\x0c', '\r']

/-- The part of a pattern that a letter behind a backslash stands for. -/
def escaped? : Char → Option Pattern
  | 'w' => some (.oneOf false wordLetters)
  | 'W' => some (.oneOf true wordLetters)
  | 's' => some (.oneOf false blankLetters)
  | 'S' => some (.oneOf true blankLetters)
  | 'b' => some (.boundary .either)
  | 'B' => some (.boundary .neither)
  | '<' => some (.boundary .begins)
  | '>' => some (.boundary .ends)
  | '\x60' => some .start
  | '\'' => some .finish
  | _ => none

/-- The mark at the start of a pattern.  In the extended notation the marks stand bare, in the other
one most of them behind a backslash. -/
def readMark (dialect : Dialect) (atStart : Bool) (chars : List Char) :
    Except PatternFault (Mark × List Char) :=
  let extended := dialect != .basic
  let single (pattern : Pattern) (rest : List Char) : Except PatternFault (Mark × List Char) :=
    .ok (.single pattern, rest)
  let special (c : Char) (rest : List Char) : Except PatternFault (Mark × List Char) :=
    match c with
    | '(' => .ok (.opening, rest)
    | ')' => .ok (.closing, rest)
    | '|' => .ok (.bar, rest)
    | '+' => .ok (.many 1 none, rest)
    | '?' => .ok (.many 0 (some 1), rest)
    | c => do
      match ← readCounts dialect rest with
      | some ((least, most), rest) => .ok (.many least most, rest)
      | none => single (.letter c) rest
  let isSpecial (c : Char) : Bool := c ∈ ['(', ')', '|', '+', '?', '\x7b']
  let repeats (c : Char) : Bool := c ∈ ['+', '?', '\x7b']
  let endsHere (rest : List Char) : Bool :=
    extended || rest.isEmpty || ['\\', ')'].isPrefixOf rest || ['\\', '|'].isPrefixOf rest
  match chars with
  | [] | ['\\'] => .error .trailingBackslash
  | '\\' :: c :: rest =>
    match escaped? c with
    | some pattern => single pattern rest
    | none =>
      if c.isDigit ∧ c ≠ '0' then single (.sameAs (c.toNat - '0'.toNat)) rest
      else if ¬ extended ∧ isSpecial c then
        -- a count with nothing before it is a letter here, or nothing, or a fault
        if repeats c ∧ atStart then
          (if c = '\x7b' then .error .nothingToRepeat else single (.letter c) rest)
        else special c rest
      else single (.letter c) rest
  | '[' :: rest => (readSet rest).map fun (pattern, rest) => (.single pattern, rest)
  | '.' :: rest => single .anyLetter rest
  | '*' :: rest =>
    if atStart then
      match dialect with
      | .basic => single (.letter '*') rest
      | .extended => .error .nothingToRepeat
      | .lenient => single .empty rest
    else .ok (.many 0 none, rest)
  -- anchors are letters in the middle of a basic pattern
  | '^' :: rest => if extended || atStart then single .start rest else single (.letter '^') rest
  | '$' :: rest => if endsHere rest then single .finish rest else single (.letter '$') rest
  | c :: rest =>
    if ¬ extended ∨ ¬ isSpecial c then single (.letter c) rest
    else if repeats c ∧ atStart then
      if dialect = .extended then .error .nothingToRepeat
      else if c = '\x7b' then single (.letter c) rest
      else single .empty rest
    else special c rest

/-- Reads a pattern up to a closing mark: the choices before this one, the sequence so far and its
last part, which a repetition applies to; the number of groups so far, and how many are open. -/
def readFrom (dialect : Dialect) : (fuel : Nat) → (earlier : Option Pattern) →
    (soFar : Pattern) → (last : Option Pattern) → (groups depth : Nat) → List Char →
    Except PatternFault (Pattern × Nat × List Char)
  | 0, _, _, _, _, _, _ => .error .unmatchedOpening
  | fuel + 1, earlier, soFar, last, groups, depth, chars =>
    -- the last part is kept apart, since a count behind it repeats it alone
    let whole : Pattern := match last with
      | some last => .sequence soFar last
      | none => soFar
    let all : Pattern := match earlier with
      | some earlier => .choice earlier whole
      | none => whole
    let atStart := last.isNone
    match chars with
    | [] => if depth = 0 then .ok (all, groups, []) else .error .unmatchedOpening
    | chars => do
      let (mark, rest) ← readMark dialect atStart chars
      match mark, last with
      | .single pattern, _ =>
        match pattern, atStart with
        -- a count cannot repeat the anchor, so it is not kept as the last part
        | .start, true =>
          readFrom dialect fuel earlier (.sequence whole .start) none groups depth rest
        | .sameAs number, _ =>
          if groups < number then .error .badReference
          else readFrom dialect fuel earlier whole (some pattern) groups depth rest
        | pattern, _ => readFrom dialect fuel earlier whole (some pattern) groups depth rest
      | .many least most, some last =>
        readFrom dialect fuel earlier soFar (some (.repeated last least most)) groups depth rest
      | .many _ _, none => .error .nothingToRepeat
      | .bar, _ => readFrom dialect fuel (some all) .empty none groups depth rest
      | .closing, _ =>
        if 0 < depth then .ok (all, groups, rest)
        else if dialect = .lenient then
          readFrom dialect fuel earlier whole (some (.letter ')')) groups depth rest
        else .error .unmatchedClosing
      | .opening, _ => do
        -- groups are numbered by their opening brackets
        let number := groups + 1
        let (pattern, groups, rest) ←
          readFrom dialect fuel none .empty none number (depth + 1) rest
        readFrom dialect fuel earlier whole (some (.group number pattern)) groups depth rest

/-- Reads a pattern. -/
def read (dialect : Dialect) (chars : List Char) : Except PatternFault Pattern :=
  (readFrom dialect (chars.length + 2) none .empty none 0 0 chars).map (·.1)

/-- The pattern that matches a text as it is. -/
def literal (text : List Char) : Pattern :=
  text.foldr (fun c pattern => .sequence (.letter c) pattern) .empty

/-- **A literal pattern** matches a text where it stands and nowhere else. -/
theorem places_literal (text : List Char) (place : Place) :
    places id (literal text) place =
      if text.isPrefixOf place.rest then [place.skip text.length] else [] := by
  induction text generalizing place with
  | nil => simp [literal, places, Place.skip]
  | cons c text ih =>
    rw [literal, List.foldr_cons, ← literal, places, places]
    rcases place with ⟨before, rest, groups⟩
    cases rest with
    | nil => simp
    | cons d rest =>
      by_cases hc : c = d
      · subst hc
        simp [ih, Place.skip]
      · simp [hc, Ne.symm hc]

end Pattern

/-- The letters as they are, or without regard to case. -/
def caseFold (ignoreCase : Bool) (c : Char) : Char := if ignoreCase then c.toLower else c

end Shell

end TreeOutline
