import TreeOutline.Number.Binary64
import TreeOutline.Shell.Numeral

namespace TreeOutline

/-!
# Numbers with a fraction in scripts

* `Shell.leadingReal?` — the double at the start of a text, and what follows; this is the end of
  the text (`Shell.suffix_of_leadingReal?`).
* `Shell.realOf` — the double at the start of a text, zero where there is none.
-/

namespace Shell

/-- Whether a byte is a blank. -/
def isSpaceByte (c : Char) : Bool := c == ' ' || ('\t' ≤ c && c ≤ '\r')

/-- The exponent behind a mark, with a sign that may be there, and what follows; zero where there is
none. -/
def leadingExponent (marks : List Char) (chars : List Char) : Int × List Char :=
  match chars with
  | mark :: rest =>
    let (negative, rest) := leadingSign rest
    match marks.contains mark, leadingNat rest with
    | true, (some n, rest) => (if negative then -n else n, rest)
    | _, _ => (0, chars)
  | [] => (0, [])

/-- What is left behind an exponent is the end of the text. -/
theorem leadingExponent_suffix (marks chars : List Char) :
    (leadingExponent marks chars).2 <:+ chars := by
  cases chars with
  | nil => exact List.suffix_rfl
  | cons mark rest =>
    rw [leadingExponent]
    dsimp only
    split
    next n left _ hread =>
      have hleft : left <:+ (leadingSign rest).2 := by
        have h := leadingNat_suffix (leadingSign rest).2
        rwa [hread] at h
      exact (hleft.trans (leadingSign_suffix rest)).trans (List.suffix_cons mark rest)
    next => exact List.suffix_rfl

/-- The digits of a base at the start, and those behind a point. -/
def leadingDigits (p : Char → Bool) (chars : List Char) : List Char × List Char × List Char :=
  let whole := chars.takeWhile p
  match chars.drop whole.length with
  | '.' :: rest =>
    let places := rest.takeWhile p
    if whole.isEmpty ∧ places.isEmpty then ([], [], chars)
    else (whole, places, rest.drop places.length)
  | rest => (whole, [], rest)

/-- **Digits make up the start of a text**, with or without a point between them. -/
theorem append_leadingDigits (p : Char → Bool) (chars : List Char) :
    ∃ point, (point = [] ∨ point = ['.']) ∧
      (leadingDigits p chars).1 ++ point ++ (leadingDigits p chars).2.1 ++
        (leadingDigits p chars).2.2 = chars := by
  have hwhole := List.prefix_iff_eq_append.1 (List.takeWhile_prefix p (l := chars))
  rw [leadingDigits]
  split
  next rest hrest =>
    have hplaces := List.prefix_iff_eq_append.1 (List.takeWhile_prefix p (l := rest))
    rw [hrest] at hwhole
    dsimp only
    split
    · exact ⟨[], .inl rfl, rfl⟩
    · refine ⟨['.'], .inr rfl, ?_⟩
      rw [List.append_assoc, List.append_assoc, hplaces]
      exact hwhole
  next hrest =>
    refine ⟨[], .inl rfl, ?_⟩
    simpa using hwhole

/-- The double that stands at the start of a text without a sign: in base ten, in base sixteen
behind `0x`, or as a word. -/
def unsignedReal? (chars : List Char) : Option (Binary64 × List Char) :=
  let begins (word : String) : Bool := word.toList.isPrefixOf (chars.map Char.toLower)
  if begins "infinity" then some (.infinite false, chars.drop 8)
  else if begins "inf" then some (.infinite false, chars.drop 3)
  else if begins "nan" then some (.nan, chars.drop 3)
  else
    let (whole, places, rest) := leadingDigits isHexDigit (chars.drop 2)
    if begins "0x" ∧ ¬ (whole ++ places).isEmpty then
      let (exponent, rest) := leadingExponent ['p', 'P'] rest
      let power := exponent - 4 * (places.length : Int)
      let n := digitsNumber 16 (whole ++ places)
      some (if 0 ≤ power then .ofRatio false (n * Nat.pow 2 (min power 5000).toNat) 1
        else .ofRatio false n (Nat.pow 2 (min (-power) 20000).toNat), rest)
    else
      let (whole, places, rest) := leadingDigits Char.isDigit chars
      if (whole ++ places).isEmpty then none
      else
        let (exponent, rest) := leadingExponent ['e', 'E'] rest
        some (.ofDecimal false (digitsNumber 10 (whole ++ places))
          (exponent - (places.length : Int)), rest)

/-- So what is left behind digits is the end of the text. -/
theorem leadingDigits_suffix (p : Char → Bool) (chars : List Char) :
    (leadingDigits p chars).2.2 <:+ chars := by
  obtain ⟨point, -, heq⟩ := append_leadingDigits p chars
  exact ⟨_, heq⟩

/-- What is left behind a number without a sign is the end of the text. -/
theorem suffix_of_unsignedReal? {chars rest : List Char} {x : Binary64}
    (h : unsignedReal? chars = some (x, rest)) : rest <:+ chars := by
  rw [unsignedReal?] at h
  dsimp only at h
  split at h
  · cases h; exact List.drop_suffix 8 chars
  · split at h
    · cases h; exact List.drop_suffix 3 chars
    · split at h
      · cases h; exact List.drop_suffix 3 chars
      · split at h
        · cases h
          exact (leadingExponent_suffix _ _).trans ((leadingDigits_suffix _ _).trans
            (List.drop_suffix 2 chars))
        · split at h
          · exact absurd h (by simp)
          · cases h
            exact (leadingExponent_suffix _ _).trans (leadingDigits_suffix _ _)

/-- The double at the start of a text, behind blanks and a sign that may be there, and what
follows. -/
def leadingReal? (chars : List Char) : Option (Binary64 × List Char) :=
  match chars.dropWhile isSpaceByte with
  | '-' :: rest => (unsignedReal? rest).map fun (x, rest) => (x.neg, rest)
  | '+' :: rest => unsignedReal? rest
  | rest => unsignedReal? rest

/-- **A double is read from the start of a text**: what follows is the end of it. -/
theorem suffix_of_leadingReal? {chars rest : List Char} {x : Binary64}
    (h : leadingReal? chars = some (x, rest)) : rest <:+ chars := by
  have hblanks := List.dropWhile_suffix isSpaceByte (l := chars)
  unfold leadingReal? at h
  split at h
  next behind heq =>
    obtain ⟨⟨y, left⟩, hread, hy⟩ := Option.map_eq_some_iff.1 h
    cases hy
    rw [heq] at hblanks
    exact (suffix_of_unsignedReal? hread).trans ((List.suffix_cons '-' behind).trans hblanks)
  next behind heq =>
    rw [heq] at hblanks
    exact (suffix_of_unsignedReal? h).trans ((List.suffix_cons '+' behind).trans hblanks)
  next => exact (suffix_of_unsignedReal? h).trans hblanks

/-- The double at the start of a text, zero where there is none. -/
def realOf (chars : List Char) : Binary64 := ((leadingReal? chars).map (·.1)).getD .zero

end Shell

end TreeOutline
