import TreeOutline.Shell.Tool.Basic

namespace TreeOutline

/-!
# Sets of characters

* `Shell.classChars?` — the characters of a class.
* `Shell.setLetters` — characters as they are written, some of them behind a backslash.
* `Shell.charRange` — the characters from one to another; `mem_charRange_of_le` — all of them.
* `Shell.expandSet` — ranges and classes written out.
-/

namespace Shell

/-! ### Sets of characters -/

/-- The characters of a named class. -/
def classChars? (name : String) : Option (List Char) :=
  let all := (List.range 256).map Char.ofNat
  let pick (p : Char → Bool) : Option (List Char) := some (all.filter p)
  let isPrint (c : Char) : Bool := ' ' ≤ c && c ≤ '~'
  match name with
  | "alpha" => pick Char.isAlpha
  | "digit" => pick Char.isDigit
  | "alnum" => pick Char.isAlphanum
  | "upper" => pick Char.isUpper
  | "lower" => pick Char.isLower
  | "space" => pick fun c => c == ' ' || ('\t' ≤ c && c ≤ '\r')
  | "blank" => pick fun c => c == ' ' || c == '\t'
  | "punct" => pick fun c => isPrint c && c != ' ' && !c.isAlphanum
  | "print" => pick isPrint
  | "graph" => pick fun c => isPrint c && c != ' '
  | "cntrl" => pick fun c => c < ' ' || c == '\x7f'
  | "xdigit" => pick fun c => c.isDigit || ('a' ≤ c && c ≤ 'f') || ('A' ≤ c && c ≤ 'F')
  | _ => none

/-- The character that a letter behind a backslash stands for. -/
def controlLetter? : Char → Option Char
  | 'a' => some '\x07'
  | 'b' => some '\x08'
  | 'f' => some '\x0c'
  | 'n' => some '\n'
  | 'r' => some '\r'
  | 't' => some '\t'
  | 'v' => some '\x0b'
  | '\\' => some '\\'
  | _ => none

/-- The character that octal digits number. -/
def octalChar (digits : List Char) : Char :=
  Char.ofNat (digits.foldl (fun n c => 8 * n + digitValue c) 0 % 256)

/-- The characters of a set as it is written, marking those that were behind a backslash. -/
def setLetters : (fuel : Nat) → List Char → List (Char × Bool)
  | 0, _ => []
  | fuel + 1, chars =>
    match chars with
    | [] => []
    | '\\' :: c :: rest =>
      if isOctal c then
        let digits := c :: (rest.take 2).takeWhile isOctal
        (octalChar digits, true) :: setLetters fuel (rest.drop (digits.length - 1))
      else ((controlLetter? c).getD c, true) :: setLetters fuel rest
    | c :: rest => (c, false) :: setLetters fuel rest

/-- Without a backslash a set is written by its characters. -/
theorem setLetters_of_not_mem {fuel : Nat} {chars : List Char} (hfuel : chars.length < fuel)
    (h : '\\' ∉ chars) : setLetters fuel chars = chars.map (·, false) := by
  induction chars generalizing fuel with
  | nil =>
    obtain ⟨fuel, rfl⟩ := Nat.exists_eq_add_one_of_ne_zero (Nat.ne_of_gt hfuel)
    rfl
  | cons c rest ih =>
    obtain ⟨fuel, rfl⟩ := Nat.exists_eq_add_one_of_ne_zero (Nat.ne_of_gt (Nat.zero_lt_of_lt hfuel))
    have hc : c ≠ '\\' := fun heq => h (heq ▸ List.mem_cons_self)
    have hrest : '\\' ∉ rest := fun hmem => h (List.mem_cons_of_mem c hmem)
    rw [List.map_cons, ← ih (Nat.lt_of_succ_lt_succ hfuel) hrest, setLetters]
    exact fun _ _ heq => absurd heq hc

/-- The characters from one to another. -/
def charRange (first last : Char) : List Char :=
  (List.range (last.toNat + 1 - first.toNat)).map fun i => Char.ofNat (first.toNat + i)

/-- A range has all the letters from its first one to its last one. -/
theorem length_charRange (first last : Char) :
    (charRange first last).length = last.toNat + 1 - first.toNat := by
  rw [charRange, List.length_map, List.length_range]

/-- **A range** has every character between its ends. -/
theorem mem_charRange_of_le {first last c : Char} (hfirst : first ≤ c) (hlast : c ≤ last) :
    c ∈ charRange first last := by
  have hfirst : first.toNat ≤ c.toNat := hfirst
  have hlast : c.toNat ≤ last.toNat := hlast
  refine List.mem_map.2 ⟨c.toNat - first.toNat, List.mem_range.2 (by omega), ?_⟩
  rw [Nat.add_sub_cancel' hfirst, Char.ofNat_toNat]

/-- Ends in the wrong order have none between them. -/
theorem charRange_eq_nil {first last : Char} (h : last < first) : charRange first last = [] := by
  rw [← List.length_eq_zero_iff, length_charRange]
  have h : last.toNat < first.toNat := h
  omega

/-- The characters of a set, ranges and classes written out. -/
def expandSet : (fuel : Nat) → List (Char × Bool) → List Char
  | 0, _ => []
  | fuel + 1, letters =>
    match letters with
    | [] => []
    | ('[', false) :: (':', false) :: rest =>
      let name := rest.takeWhile (· ≠ (':', false))
      match (classChars? (String.ofList (name.map (·.1)))), rest.drop name.length with
      | some chars, _ :: (']', false) :: rest => chars ++ expandSet fuel rest
      | _, _ => '[' :: expandSet fuel ((':', false) :: rest)
    | (first, _) :: ('-', false) :: (last, _) :: rest =>
      charRange first last ++ expandSet fuel rest
    | (c, _) :: rest => c :: expandSet fuel rest

end Shell

end TreeOutline
