import TreeOutline.Shell.PathPattern
import TreeOutline.Shell.Script.Token
import TreeOutline.Shell.State
import TreeOutline.Shell.Sum

namespace TreeOutline

/-!
# Words of a running script

* `Shell.Fields` — the fields that a word becomes, while it is put together;
  `Fields.not_mem_of_mem_toList`, `Fields.toList_addAll` — what becomes of text that is split, and
  of texts that are not.
* `Shell.expandInto` — puts a word together from its parts.
* `Shell.State.atHome` — a word with a home directory in the place of a tilde.
* `Shell.expandWords`, `Shell.expandCommand`, `Shell.expandText`, `Shell.expandSetting`,
  `Shell.expandPattern` — words as fields, as one text and as a pattern.
-/

namespace Shell

/-- Fields while a word is put together: those that are complete, latest first, the letters of the
one that is being written, latest first, whether there is one, and whether a blank has ended the
one before it. -/
structure Fields where
  complete : List (List Letter)
  current : List Letter
  begun : Bool
  afterBlank : Bool

namespace Fields

/-- Nothing yet. -/
def none : Fields := ⟨[], [], false, false⟩

/-- Adds text that is not split. -/
def add (f : Fields) (quoted : Bool) (text : List Char) : Fields :=
  { f with current := (text.map fun c => (c, quoted)).reverse ++ f.current, begun := true }

/-- Ends the field that is being written, even an empty one. -/
def close (f : Fields) (afterBlank : Bool) : Fields :=
  ⟨f.current.reverse :: f.complete, [], false, afterBlank⟩

/-- Adds a character that may end a field.  Blanks only separate fields, and together with another
separator they count once. -/
def addLetter (f : Fields) (separators : List Char) (c : Char) : Fields :=
  if ¬ separators.contains c then f.add false [c]
  else if c ∈ [' ', '\t', '\n'] then (if f.begun then f.close true else f)
  else if f.afterBlank ∧ ¬ f.begun then { f with afterBlank := false }
  else f.close false

/-- Adds text, which is split unless it is quoted. -/
def addText (f : Fields) (separators : Option (List Char)) (quoted : Bool) (text : List Char) :
    Fields :=
  match separators, quoted with
  | some separators, false => text.foldl (fun f c => f.addLetter separators c) f
  | _, _ => f.add quoted text

/-- Adds texts as fields of their own, the first one to what is being written. -/
def addAll (f : Fields) : List (List Char) → Fields
  | [] => f
  | [text] => f.add true text
  | text :: rest => addAll ((f.add true text).close false) rest

/-- All fields with their letters. -/
def toList (f : Fields) : List (List Letter) :=
  (if f.begun then f.close false else f).complete.reverse

variable {f : Fields} {separators : List Char}

/-- Quoted text is one piece, whatever is in it. -/
theorem addText_quoted (f : Fields) (separators : Option (List Char)) (text : List Char) :
    f.addText separators true text = f.add true text := by
  cases separators <;> rfl

/-- **No separator** is left in the fields. -/
structure Split (f : Fields) (separators : List Char) : Prop where
  complete : ∀ field ∈ f.complete, ∀ letter ∈ field, letter.1 ∉ separators
  current : ∀ letter ∈ f.current, letter.1 ∉ separators

/-- Closing a field keeps fields split. -/
theorem Split.close (h : f.Split separators) (afterBlank : Bool) :
    (f.close afterBlank).Split separators where
  complete := List.forall_mem_cons.2
    ⟨fun letter hletter => h.current letter (List.mem_reverse.1 hletter), h.complete⟩
  current := by simp [Fields.close]

/-- One more character is added to the field that is being written, or separates it. -/
theorem Split.addLetter (h : f.Split separators) (c : Char) :
    (f.addLetter separators c).Split separators := by
  unfold Fields.addLetter
  split
  next hc =>
    refine ⟨h.complete, fun letter hletter => ?_⟩
    rcases List.mem_cons.1 (show letter ∈ (c, false) :: f.current from hletter) with rfl | hletter
    · simpa using hc
    · exact h.current letter hletter
  next =>
    split
    next =>
      split
      next => exact h.close true
      next => exact h
    next =>
      split
      next => exact ⟨h.complete, h.current⟩
      next => exact h.close false

/-- **Splitting** leaves no separator in any field. -/
theorem not_mem_of_mem_toList (separators text : List Char) :
    ∀ field ∈ (Fields.none.addText (some separators) false text).toList,
      ∀ letter ∈ field, letter.1 ∉ separators := by
  have hsplit : (Fields.none.addText (some separators) false text).Split separators :=
    List.foldlRecOn text _ (motive := fun f : Fields => f.Split separators)
      ⟨by simp [none], by simp [none]⟩ fun _ h c _ => h.addLetter c
  intro field hfield
  unfold toList at hfield
  rw [List.mem_reverse] at hfield
  split at hfield
  next => exact (hsplit.close false).complete field hfield
  next => exact hsplit.complete field hfield

/-- Where no field is begun, fields that are added are fields of their own. -/
theorem toList_addAll_of_not_begun {f : Fields} (hcurrent : f.current = [])
    (hbegun : f.begun = false) (texts : List (List Char)) :
    (f.addAll texts).toList = f.toList ++ texts.map (·.map (·, true)) := by
  have htoList : f.toList = f.complete.reverse := by simp [toList, hbegun]
  match texts with
  | [] => simp [addAll]
  | [text] =>
    rw [htoList]
    simp [addAll, toList, close, add, hcurrent]
  | text :: next :: rest =>
    show (((f.add true text).close false).addAll (next :: rest)).toList = _
    rw [toList_addAll_of_not_begun rfl rfl (next :: rest), htoList]
    simp [toList, close, add, hcurrent]

/-- **Texts as fields of their own** stay whole. -/
theorem toList_addAll (texts : List (List Char)) :
    (Fields.none.addAll texts).toList = texts.map (·.map (·, true)) :=
  toList_addAll_of_not_begun rfl rfl texts

end Fields

/-- The text of letters. -/
def textOf (letters : List Letter) : String := String.ofList (letters.map (·.1))

/-! ### Home directories -/

/-- The home directory of somebody by name; without a name one's own. -/
def State.homeOf? (s : State) (name : List Char) : Option String :=
  if name.isEmpty then s.bindings.lookup "HOME"
  else if name = "root".toList then some "/root"
  else none

/-- A part of a word with the home directory in the place of a tilde, and maybe a name, in front of
it, if a slash is behind them or the part `ends` there. -/
def State.withHome (s : State) (ends : Bool) (text : String) : Word :=
  match text.toList with
  | '~' :: rest =>
    let name := rest.takeWhile (· ≠ '/')
    match s.homeOf? name with
    | some home =>
      if name.length < rest.length ∨ ends then
        [.text home true, .text (String.ofList (rest.drop name.length)) false]
      else [.text text false]
    | none => [.text text false]
  | _ => [.text text false]

/-- A word with home directories at its beginning. -/
def State.atHome (s : State) (word : Word) : Word :=
  match word with
  | .text text false :: rest => s.withHome rest.isEmpty text ++ rest
  | word => word

/-- The value of a setting with home directories at its beginning and behind each colon. -/
def State.settingAtHome (s : State) (opens : Bool) : Word → Word
  | [] => []
  | .text text false :: rest =>
    let pieces := text.splitOn ":"
    let last := pieces.length - 1
    let parts := pieces.mapIdx fun i piece =>
      let colon : Word := if i = 0 then [] else [.text ":" false]
      let piece : Word := if i = 0 ∧ ¬ opens then [.text piece false]
        else s.withHome (i < last ∨ rest.isEmpty) piece
      colon ++ piece
    parts.flatten ++ settingAtHome s false rest
  | part :: rest => part :: settingAtHome s false rest

/-! ### Putting words together -/

/-- Evaluates the text of an arithmetic expression and sets the variables that it sets. -/
def evaluate (text : String) : Run (List Char) := do
  let s ← get
  match readSum text >>= fun sum => sum.value s.parameter? [] with
  | .error fault => fail (fault.message text)
  | .ok (n, set) =>
    set.reverse.forM fun (name, n) => assign name (toString n)
    return (toString n).toList

/-- Puts a word together from its parts.  It is split at separators, if there are any given;
`output` is what scripts in it print. -/
def expandInto (output : List Statement → Run (List Char)) (separators : Option (List Char)) :
    (fuel : Nat) → Word → Fields → Run Fields
  | 0, _, f => return f
  | _, [], f => return f
  | fuel + 1, part :: rest, f => do
    let s ← get
    match part with
    | .text text quoted => expandInto output separators fuel rest (f.add quoted text.toList)
    | .sum expression quoted =>
      let inner ← expandInto output Option.none fuel expression .none
      let value ← evaluate (textOf inner.current.reverse)
      expandInto output separators fuel rest (f.addText separators quoted value)
    | .output script quoted =>
      let text ← output script
      -- line ends at the end of what a command printed are dropped
      let text := (text.reverse.dropWhile (· = '\n')).reverse
      expandInto output separators fuel rest (f.addText separators quoted text)
    | .parameter name use quoted =>
      let value := s.parameter? name
      let isSet (orEmpty : Bool) : Bool := value.any fun text => !orEmpty || text ≠ ""
      let withValue (text : List Char) : Run Fields :=
        expandInto output separators fuel rest (f.addText separators quoted text)
      let withWord (word : Word) : Run Fields := do
        let f ← expandInto output separators fuel (if quoted then word else s.atHome word) f
        expandInto output separators fuel rest f
      let textOfWord (word : Word) : Run String := do
        let inner ← expandInto output Option.none fuel (if quoted then word else s.atHome word)
          .none
        return textOf inner.current.reverse
      match use with
      | .refused => fail "Bad substitution"
      | .value =>
        if value.isNone ∧ s.options.refuseUnset then fail s!"{name}: parameter not set"
        else
          match name, quoted, separators with
          -- each argument is a field of its own, even an empty one
          | "@", true, some _ =>
            expandInto output separators fuel rest (f.addAll (s.arguments.map String.toList))
          | "*", true, _ =>
            -- in one field the arguments are joined by the first separator
            let joint := (s.separators.head?.map String.singleton).getD ""
            withValue (joint.intercalate s.arguments).toList
          | "@", false, some all | "*", false, some all =>
            let f := s.arguments.foldl (fun f text =>
              let f := f.addText (some all) false text.toList
              if f.begun then f.close true else f) f
            expandInto output separators fuel rest f
          | _, _, _ => withValue (value.getD "").toList
      | .length => withValue (toString (value.getD "").length).toList
      | .fallback kind orEmpty word =>
        match kind, isSet orEmpty with
        -- the word is not expanded unless it is used
        | .replace, true | .assign, true | .complain, true =>
          withValue (value.getD "").toList
        | .replace, false | .exchange, true => withWord word
        | .exchange, false =>
          let f := if quoted then f.add true [] else f
          expandInto output separators fuel rest f
        | .assign, false => do
          let text ← textOfWord word
          assign name text
          withValue text.toList
        | .complain, false => do
          let text ← textOfWord word
          let message :=
            if text ≠ "" then text
            else if orEmpty then "parameter not set or null"
            else "parameter not set"
          fail s!"{name}: {message}"
      | .trimmed atEnd longest word => do
        let inner ← expandInto output Option.none fuel word .none
        let pattern := Glob.ofLetters inner.current.reverse
        withValue (Glob.trim atEnd longest pattern (value.getD "").toList)

/-- The letters of a word that stays in one piece. -/
def expandLetters (output : List Statement → Run (List Char)) (fuel : Nat) (word : Word) :
    Run (List Letter) := do
  let f ← expandInto output Option.none fuel ((← get).atHome word) .none
  return f.current.reverse

/-- The value of a setting. -/
def expandSetting (output : List Statement → Run (List Char)) (fuel : Nat) (word : Word) :
    Run String := do
  let f ← expandInto output Option.none fuel ((← get).settingAtHome true word) .none
  return textOf f.current.reverse

/-- The text of a word that stays in one piece. -/
def expandText (output : List Statement → Run (List Char)) (fuel : Nat) (word : Word) :
    Run String := do
  return textOf (← expandLetters output fuel word)

/-- The pattern that a word writes. -/
def expandPattern (output : List Statement → Run (List Char)) (fuel : Nat) (word : Word) :
    Run (List Glob) := do
  return Glob.ofLetters (← expandLetters output fuel word)

/-- The fields of a word; patterns for paths become the paths that they match, if there are any. -/
def expandWord (output : List Statement → Run (List Char)) (fuel : Nat) (word : Word) :
    Run (List String) := do
  let s ← get
  let f ← expandInto output (some s.separators) fuel (s.atHome word) .none
  let store := (← get).store
  return f.toList.flatMap fun letters =>
    let paths :=
      if isPathPattern letters ∧ ¬ s.options.plainPaths then store.matching letters else []
    if paths.isEmpty then [textOf letters] else paths

/-- The fields of words. -/
def expandWords (output : List Statement → Run (List Char)) (fuel : Nat) :
    List Word → Run (List String)
  | [] => return []
  | word :: rest => do
    let fields ← expandWord output fuel word
    let more ← expandWords output fuel rest
    return fields ++ more

/-- The name and the value of a word that is written as a setting. -/
def settingWord? : Word → Option (String × Word)
  | .text text false :: rest =>
    match settingName? text.toList with
    | some (name, value) => some (name, .text (String.ofList value) false :: rest)
    | none => none
  | _ => none

/-- The fields of a command, the ones in front being `known`.  Commands that set variables take
words that are written as settings in one piece. -/
def expandCommand (output : List Statement → Run (List Char)) (fuel : Nat) :
    (known : List String) → List Word → Run (List String)
  | known, [] => return known
  | known, word :: rest => do
    let sets := (known.dropWhile (· = "command")).head?.any fun name =>
      name ∈ ["export", "readonly", "local"]
    match sets, settingWord? word with
    | true, some (name, value) => do
      let value ← expandSetting output fuel value
      expandCommand output fuel (known ++ [name ++ "=" ++ value]) rest
    | _, _ => do
      let fields ← expandWord output fuel word
      expandCommand output fuel (known ++ fields) rest

end Shell

end TreeOutline
