import TreeOutline.Number.Bits
import TreeOutline.Shell.Tool.Basic

namespace TreeOutline

/-!
# Orders of texts

* `Shell.compareBytes` — texts by their bytes; `Shell.charsLe` is a total order
  (`Shell.charsLe_total`, `Shell.charsLe_antisymm`, `Shell.charsLe_trans`).
* `Shell.compareDecimals`, `Shell.compareReals`, `Shell.compareSizes`, `Shell.compareMonths` — texts
  by what stands at their start.
* `Shell.compareVersions` — texts in which numbers count as a whole.
-/

namespace Shell

/-- Texts by their bytes; a text comes before those that it begins. -/
def compareBytes : List Char → List Char → Ordering
  | [], [] => .eq
  | [], _ :: _ => .lt
  | _ :: _, [] => .gt
  | a :: s, b :: t => if a < b then .lt else if b < a then .gt else compareBytes s t

/-- **Bytes decide on every text**: only equal ones are of the same rank. -/
theorem compareBytes_eq_iff {s t : List Char} : compareBytes s t = .eq ↔ s = t := by
  induction s generalizing t with
  | nil => cases t <;> simp [compareBytes]
  | cons a s ih =>
    cases t with
    | nil => simp [compareBytes]
    | cons b t =>
      rw [compareBytes, List.cons.injEq]
      split
      next hlt => simp [Char.ne_of_lt hlt]
      next hge =>
        split
        next hgt => simp [(Char.ne_of_lt hgt).symm]
        next hle =>
          have heq : a = b := Char.le_antisymm (Char.not_lt.1 hle) (Char.not_lt.1 hge)
          rw [ih, and_iff_right heq]

/-- Exchanging the texts exchanges before and behind. -/
theorem compareBytes_swap (s t : List Char) : (compareBytes s t).swap = compareBytes t s := by
  induction s generalizing t with
  | nil => cases t <;> rfl
  | cons a s ih =>
    cases t with
    | nil => rfl
    | cons b t =>
      rw [compareBytes, compareBytes]
      by_cases hlt : a < b
      · rw [if_pos hlt, if_neg (Char.lt_asymm hlt), if_pos hlt]
        rfl
      · rw [if_neg hlt, if_neg hlt]
        by_cases hgt : b < a
        · rw [if_pos hgt, if_pos hgt]
          rfl
        · rw [if_neg hgt, if_neg hgt, ih]

/-- Whether a text comes before another or equals it, by its bytes. -/
def charsLe (a b : List Char) : Bool := compareBytes a b != .gt

/-- A text is not behind another exactly where it does not compare as greater. -/
theorem charsLe_iff {a b : List Char} : charsLe a b = true ↔ compareBytes a b ≠ .gt := by
  rw [charsLe, bne_iff_ne]

/-- Of two texts one comes first. -/
theorem charsLe_total (a b : List Char) : (charsLe a b || charsLe b a) = true := by
  rw [Bool.or_eq_true, charsLe_iff, charsLe_iff, ← compareBytes_swap a b]
  cases compareBytes a b <;> simp

/-- Two texts of which neither comes behind the other are equal. -/
theorem charsLe_antisymm {a b : List Char} (hab : charsLe a b = true) (hba : charsLe b a = true) :
    a = b := by
  rw [charsLe_iff] at hab hba
  rw [← compareBytes_swap] at hba
  refine compareBytes_eq_iff.1 ?_
  cases hcompare : compareBytes a b with
  | eq => rfl
  | lt => simp [hcompare] at hba
  | gt => exact absurd hcompare hab

/-- The first characters decide unless they are equal. -/
theorem charsLe_cons_cons {a b : Char} {s t : List Char} :
    charsLe (a :: s) (b :: t) = true ↔ a < b ∨ a = b ∧ charsLe s t = true := by
  rw [charsLe_iff, charsLe_iff, compareBytes]
  split
  next hlt => simp [hlt]
  next hge =>
    split
    next hgt => simp [hge, (Char.ne_of_lt hgt).symm]
    next hle =>
      have heq : a = b := Char.le_antisymm (Char.not_lt.1 hle) (Char.not_lt.1 hge)
      simp [heq]

/-- **The order of texts by their bytes** is transitive. -/
theorem charsLe_trans {a b c : List Char} (hab : charsLe a b = true) (hbc : charsLe b c = true) :
    charsLe a c = true := by
  induction a generalizing b c with
  | nil => cases c <;> rfl
  | cons x a ih =>
    cases b with
    | nil => exact absurd hab (by simp [charsLe, compareBytes])
    | cons y b =>
      cases c with
      | nil => exact absurd hbc (by simp [charsLe, compareBytes])
      | cons z c =>
        rw [charsLe_cons_cons] at hab hbc ⊢
        rcases hab with hxy | ⟨rfl, hab⟩
        · rcases hbc with hyz | ⟨rfl, -⟩
          · exact .inl (Char.lt_trans hxy hyz)
          · exact .inl hxy
        · rcases hbc with hyz | ⟨rfl, hbc⟩
          · exact .inl hyz
          · exact .inr ⟨rfl, ih hab hbc⟩

/-- Skips blanks. -/
def skipSpaces (chars : List Char) : List Char := chars.dropWhile fun c => c == ' ' || c == '\t'

/-! ### Numbers -/

/-- The number at the start of a text, behind blanks, as its sign, its whole part and the digits
behind the point, and what follows; `0` if there is none. -/
def leadingDecimal (text : List Char) : Bool × (Nat × List Char) × List Char :=
  let text := skipSpaces text
  let (negative, text) := match text with
    | '-' :: rest => (true, rest)
    | rest => (false, rest)
  let digits := text.takeWhile Char.isDigit
  let (places, rest) := match text.drop digits.length with
    | '.' :: rest => (rest.takeWhile Char.isDigit, rest.dropWhile Char.isDigit)
    | rest => ([], rest)
  let places := (places.reverse.dropWhile (· = '0')).reverse
  let whole := digits.foldl (fun n c => 10 * n + digitValue c) 0
  (negative && (whole ≠ 0 || !places.isEmpty), (whole, places), rest)

/-- Numbers with a sign in front of them, by an order of those without. -/
def compareSigned {α : Type} (order : α → α → Ordering) (a b : Bool × α) : Ordering :=
  match a.1, b.1 with
  | false, false => order a.2 b.2
  | true, true => order b.2 a.2
  | true, false => .lt
  | false, true => .gt

/-- Numbers by their whole part and the digits behind the point. -/
def compareParts (a b : Nat × List Char) : Ordering :=
  (compare a.1 b.1).then (compareBytes a.2 b.2)

/-- Texts by the numbers at their start. -/
def compareDecimals (a b : List Char) : Ordering :=
  let (negative, parts, _) := leadingDecimal a
  let (negative', parts', _) := leadingDecimal b
  compareSigned compareParts (negative, parts) (negative', parts')

/-- Texts by the numbers at their start and the units behind them; a unit counts more than any
number. -/
def compareSizes (a b : List Char) : Ordering :=
  let size (text : List Char) : Bool × Nat × Nat × List Char :=
    let (negative, parts, rest) := leadingDecimal text
    let unit := match rest with
      | c :: _ => ((unitLetters.idxOf? (if c = 'k' then 'K' else c)).map (· + 1)).getD 0
      | [] => 0
    (negative, if parts = (0, []) then 0 else unit, parts)
  compareSigned (fun a b => (compare a.1 b.1).then (compareParts a.2 b.2)) (size a) (size b)

/-- Texts by the doubles at their start; texts without one come first, and then what is no
number. -/
def compareReals (a b : List Char) : Ordering :=
  match leadingReal? a, leadingReal? b with
  | none, none => .eq
  | none, some _ => .lt
  | some _, none => .gt
  | some (a, _), some (b, _) =>
    if a = .nan then (if b = .nan then .eq else .lt)
    else if b = .nan then .gt
    else if a.toFloat < b.toFloat then .lt
    else if b.toFloat < a.toFloat then .gt
    else .eq

/-- The months by the first three letters of their names. -/
def monthNames : List String :=
  ["JAN", "FEB", "MAR", "APR", "MAY", "JUN", "JUL", "AUG", "SEP", "OCT", "NOV", "DEC"]

/-- Texts by the months at their start; what is no month comes first. -/
def compareMonths (a b : List Char) : Ordering :=
  let month (text : List Char) : Nat :=
    let name := String.ofList (((skipSpaces text).take 3).map Char.toUpper)
    ((monthNames.idxOf? name).map (· + 1)).getD 0
  compare (month a) (month b)

/-! ### Versions -/

/-- The weight of what comes next in a version: the end is light, and a tilde lighter; digits weigh
less than letters, and these less than anything else. -/
def versionWeight : List Char → Int
  | [] => -1
  | c :: _ =>
    if c.isDigit then 0
    else if c.isAlpha then c.toNat
    else if c = '~' then -2
    else c.toNat + 256

/-- Compares versions up to the next number in both, and gives what follows when they agree. -/
def versionFront : List Char → List Char → Ordering × List Char × List Char
  | [], t => (if t.head?.all Char.isDigit then .eq else compare (-1) (versionWeight t), [], t)
  | c :: s, t =>
    if c.isDigit ∧ t.head?.all Char.isDigit then (.eq, c :: s, t)
    else
      match compare (versionWeight (c :: s)) (versionWeight t) with
      | .eq => versionFront s (t.drop 1)
      | order => (order, c :: s, t)

/-- Compares versions by texts and numbers in turns. -/
def versionOrder : (fuel : Nat) → List Char → List Char → Ordering
  | 0, _, _ => .eq
  | fuel + 1, s, t =>
    if s.isEmpty ∧ t.isEmpty then .eq
    else
      match versionFront s t with
      | (.eq, s, t) =>
        let digits := s.takeWhile Char.isDigit
        let digits' := t.takeWhile Char.isDigit
        (compare (digits.foldl (fun n c => 10 * n + digitValue c) 0)
          (digits'.foldl (fun n c => 10 * n + digitValue c) 0)).then
          (versionOrder fuel (s.drop digits.length) (t.drop digits'.length))
      | (order, _, _) => order

/-- How long a name is without the endings that a point and a letter begin. -/
def stemLength (name : List Char) : Nat :=
  go name.length name 0 0
where
  /-- The length so far if no ending follows, and the length up to here. -/
  go : (fuel : Nat) → List Char → (stem place : Nat) → Nat
    | fuel + 1, _ :: rest, _, place =>
      let (length, rest) := endings fuel rest 0
      go fuel rest (place + 1) (place + 1 + length)
    | _, _, stem, _ => stem
  /-- Skips endings. -/
  endings : (fuel : Nat) → List Char → (length : Nat) → Nat × List Char
    | 0, rest, length => (length, rest)
    | fuel + 1, '.' :: c :: rest, length =>
      if c.isAlpha ∨ c = '~' then
        let more := rest.takeWhile fun c => c.isAlphanum || c == '~'
        endings fuel (rest.drop more.length) (length + 2 + more.length)
      else (length, '.' :: c :: rest)
    | _, rest, length => (length, rest)

/-- Names by their versions: an empty name comes first, then names that begin with a point; endings
only count between names that are the same without them. -/
def compareVersions (a b : List Char) : Ordering :=
  let rank (name : List Char) : Nat :=
    if name = [] then 0 else if name = ['.'] then 1 else if name = ['.', '.'] then 2
    else if name.head? = some '.' then 3 else 4
  let order (a b : List Char) : Ordering := versionOrder (a.length + b.length + 1) a b
  (compare (rank a) (rank b)).then
    ((order (a.take (stemLength a)) (b.take (stemLength b))).then (order a b))

end Shell

end TreeOutline
