import TreeOutline.Text.Utf8

namespace TreeOutline

/-!
# Bytes of a text, written and read

A character is spelled in one to four bytes, and bytes that spell no character are not read.

* `sequenceShape_three`, `sequenceShape_four` — the bounds on the second byte leave out exactly the
  numbers that have a shorter spelling or are no character's.
* `decodeNext_encodeChar` — the spelling of a character is read as this character, whatever follows.
* `encodeChar_of_decodeNext` — what is read as a character is its spelling.
* `decodeText?_eq_some_iff` — **bytes are read as a text exactly if they are the bytes of it.**
-/

/-! ### Numbers of bytes and characters -/

/-- A number that fits into a byte is kept by it. -/
theorem toNat_byte {n : Nat} (h : n < 0x100) : (UInt8.ofNat n).toNat = n :=
  UInt8.toNat_ofNat_of_lt' h

/-- A byte is made of its own number. -/
theorem byte_eq {b : UInt8} {n : Nat} (h : b.toNat = n) : UInt8.ofNat n = b := by
  rw [← h, UInt8.ofNat_toNat]

/-- The number of a byte that continues a character. -/
theorem toNat_continuation (n unit : Nat) :
    (UInt8.ofNat (0x80 + n / unit % 0x40)).toNat = 0x80 + n / unit % 0x40 :=
  toNat_byte (by omega)

/-- A byte made of six bits of a number is one that continues a sequence. -/
theorem continuation_range (n unit : Nat) :
    0x80 ≤ (UInt8.ofNat (0x80 + n / unit % 0x40)).toNat ∧
      (UInt8.ofNat (0x80 + n / unit % 0x40)).toNat ≤ 0xBF := by
  rw [toNat_continuation]
  omega

/-- A character has the number of no half of a pair, and none past the last plane. -/
theorem toNat_range (c : Char) :
    c.toNat < 0xD800 ∨ 0xDFFF < c.toNat ∧ c.toNat < 0x110000 := c.valid

/-- A number in the range of characters is kept by the character. -/
theorem toNat_ofNat_of_range {n : Nat} (h : n < 0xD800 ∨ 0xDFFF < n ∧ n < 0x110000) :
    (Char.ofNat n).toNat = n := by
  unfold Char.ofNat
  rw [dif_pos h]
  rfl

/-! ### First bytes -/

/-- The first byte of a sequence of two bytes allows any follower. -/
theorem sequenceShape_two {first : UInt8} (h : 0xC2 ≤ first.toNat ∧ first.toNat ≤ 0xDF) :
    sequenceShape first = some (1, 0x80, 0xBF) :=
  if_pos h

/-- The bounds leave out what two bytes spell, and the halves of pairs. -/
theorem sequenceShape_three (first : UInt8) (h : 0xE0 ≤ first.toNat ∧ first.toNat ≤ 0xEF) :
    ∃ low high, sequenceShape first = some (2, low, high) ∧
      ∀ b, (low ≤ b ∧ b ≤ high ↔ (0x80 ≤ b ∧ b ≤ 0xBF) ∧
        0x20 ≤ first.toNat % 0x10 * 0x40 + b % 0x40 ∧
        (first.toNat % 0x10 * 0x40 + b % 0x40 < 0x360 ∨
          0x37F < first.toNat % 0x10 * 0x40 + b % 0x40)) := by
  unfold sequenceShape
  dsimp only
  -- the least value and the gap of the surrogates are in the bounds of the second octet
  split
  next => omega
  split
  next => exact ⟨_, _, rfl, fun b => by omega⟩
  split
  next => exact ⟨_, _, rfl, fun b => by omega⟩
  split
  next => exact ⟨_, _, rfl, fun b => by omega⟩
  next => omega

/-- The bounds leave out what three bytes spell, and what lies past the last plane. -/
theorem sequenceShape_four (first : UInt8) (h : 0xF0 ≤ first.toNat ∧ first.toNat ≤ 0xF4) :
    ∃ low high, sequenceShape first = some (3, low, high) ∧
      ∀ b, (low ≤ b ∧ b ≤ high ↔ (0x80 ≤ b ∧ b ≤ 0xBF) ∧
        0x10 ≤ first.toNat % 0x8 * 0x40 + b % 0x40 ∧
        first.toNat % 0x8 * 0x40 + b % 0x40 < 0x110) := by
  unfold sequenceShape
  dsimp only
  -- The first four rows of the table are about smaller bytes.
  iterate 4
    split
    next => omega
  split
  next => exact ⟨_, _, rfl, fun b => by omega⟩
  split
  next => exact ⟨_, _, rfl, fun b => by omega⟩
  split
  next => exact ⟨_, _, rfl, fun b => by omega⟩
  next => omega

/-- No other byte begins a spelling of more than one byte. -/
theorem range_of_sequenceShape {first : UInt8} {shape : Nat × Nat × Nat}
    (h : sequenceShape first = some shape) :
    (0xC2 ≤ first.toNat ∧ first.toNat ≤ 0xDF) ∨ (0xE0 ≤ first.toNat ∧ first.toNat ≤ 0xEF) ∨
      (0xF0 ≤ first.toNat ∧ first.toNat ≤ 0xF4) := by
  refine Decidable.byContradiction fun hother => ?_
  -- outside of the three ranges every test of the table fails
  have hnone : sequenceShape first = none := by
    unfold sequenceShape
    dsimp only
    repeat rw [if_neg (by omega)]
  rw [hnone] at h
  exact absurd h (by simp)

/-! ### Followers -/

@[simp] theorem followers_zero (low high : Nat) (bytes : Bytes) :
    followers 0 low high bytes = [] := by
  cases bytes with
  | nil => rfl
  | cons b rest => rfl

/-- A follower in range is taken, and the next ones are any that continue a sequence. -/
theorem followers_succ {low high : Nat} {b : UInt8} (h : low ≤ b.toNat ∧ b.toNat ≤ high)
    (count : Nat) (rest : Bytes) :
    followers (count + 1) low high (b :: rest) = b :: followers count 0x80 0xBF rest :=
  if_pos h

/-- When no follower is missing, the first of them lies between the bounds. -/
theorem exists_of_length_followers {count low high : Nat} {bytes : Bytes}
    (h : (followers (count + 1) low high bytes).length = count + 1) :
    ∃ b rest, bytes = b :: rest ∧ (low ≤ b.toNat ∧ b.toNat ≤ high) ∧
      (followers count 0x80 0xBF rest).length = count := by
  cases bytes with
  | nil => exact absurd h (by simp [followers])
  | cons b rest =>
    -- the run of followers stops at the first octet out of bounds
    by_cases hb : low ≤ b.toNat ∧ b.toNat ≤ high
    · rw [followers_succ hb, List.length_cons, Nat.add_right_cancel_iff] at h
      exact ⟨b, rest, rfl, hb, h⟩
    · rw [followers, if_neg hb] at h
      exact absurd h (by simp)

/-- Two bytes make a number of eleven bits. -/
theorem combine_one (first b : UInt8) :
    combine first [b] = Char.ofNat (first.toNat % 0x20 * 0x40 + b.toNat % 0x40) := rfl

theorem combine_two (first b b' : UInt8) :
    combine first [b, b'] =
      Char.ofNat ((first.toNat % 0x10 * 0x40 + b.toNat % 0x40) * 0x40 + b'.toNat % 0x40) := rfl

theorem combine_three (first b b' b'' : UInt8) :
    combine first [b, b', b''] =
      Char.ofNat (((first.toNat % 0x8 * 0x40 + b.toNat % 0x40) * 0x40 + b'.toNat % 0x40) * 0x40 +
        b''.toNat % 0x40) := rfl

/-- A first byte and all its followers are read as one character. -/
theorem decodeNext_of_shape {first : UInt8} {count low high : Nat} (hlarge : 0x80 ≤ first.toNat)
    (hshape : sequenceShape first = some (count, low, high)) {tail rest : Bytes}
    (hlength : tail.length = count) (htail : followers count low high (tail ++ rest) = tail) :
    decodeNext first (tail ++ rest) = (some (combine first tail), count) := by
  unfold decodeNext
  rw [if_neg (by omega), hshape]
  simp only [htail, if_pos hlength]

/-! ### Reading what was written -/

section

variable {c : Char} (rest : Bytes)

/-- A character of one byte is read back. -/
theorem decodeNext_one (h : c.toNat < 0x80) :
    ∃ first tail, encodeChar c = first :: tail ∧
      decodeNext first (tail ++ rest) = (some c, tail.length) := by
  refine ⟨_, _, if_pos h, ?_⟩
  unfold decodeNext
  rw [toNat_byte (by omega), if_pos h, Char.ofNat_toNat]
  rfl

theorem decodeNext_two (h : 0x80 ≤ c.toNat ∧ c.toNat < 0x800) :
    ∃ first tail, encodeChar c = first :: tail ∧
      decodeNext first (tail ++ rest) = (some c, tail.length) := by
  refine ⟨_, _, (if_neg (by omega)).trans (if_pos h.2), ?_⟩
  have hfirst := toNat_byte (n := 0xC0 + c.toNat / 0x40) (by omega)
  -- the two parts of the code put together again are the code
  rw [decodeNext_of_shape (by omega) (sequenceShape_two (by omega)) rfl, combine_one, hfirst,
    toNat_continuation, show _ + _ = c.toNat by omega, Char.ofNat_toNat]
  · rfl
  · simp only [List.cons_append, List.nil_append, followers_succ (continuation_range _ 1),
      followers_zero]

theorem decodeNext_three (h : 0x800 ≤ c.toNat ∧ c.toNat < 0x10000) :
    ∃ first tail, encodeChar c = first :: tail ∧
      decodeNext first (tail ++ rest) = (some c, tail.length) := by
  refine ⟨_, _, (if_neg (by omega)).trans ((if_neg (by omega)).trans (if_pos h.2)), ?_⟩
  have hc := toNat_range c
  have hfirst := toNat_byte (n := 0xE0 + c.toNat / 0x1000) (by omega)
  obtain ⟨low, high, hshape, hbounds⟩ :=
    sequenceShape_three (UInt8.ofNat (0xE0 + c.toNat / 0x1000)) (by omega)
  -- a character is neither too small for three octets nor a surrogate
  have hsecond := (hbounds (UInt8.ofNat (0x80 + c.toNat / 0x40 % 0x40)).toNat).2 (by
    rw [hfirst, toNat_continuation]
    omega)
  rw [decodeNext_of_shape (by omega) hshape rfl, combine_two, hfirst, toNat_continuation,
    toNat_continuation, show _ + _ = c.toNat by omega, Char.ofNat_toNat]
  · rfl
  · simp only [List.cons_append, List.nil_append, followers_succ hsecond,
      followers_succ (continuation_range _ 1), followers_zero]

theorem decodeNext_four (h : 0x10000 ≤ c.toNat) :
    ∃ first tail, encodeChar c = first :: tail ∧
      decodeNext first (tail ++ rest) = (some c, tail.length) := by
  refine ⟨_, _, (if_neg (by omega)).trans ((if_neg (by omega)).trans (if_neg (by omega))), ?_⟩
  have hc := toNat_range c
  have hfirst := toNat_byte (n := 0xF0 + c.toNat / 0x40000) (by omega)
  obtain ⟨low, high, hshape, hbounds⟩ :=
    sequenceShape_four (UInt8.ofNat (0xF0 + c.toNat / 0x40000)) (by omega)
  -- a character is neither too small for four octets nor past the last one
  have hsecond := (hbounds (UInt8.ofNat (0x80 + c.toNat / 0x1000 % 0x40)).toNat).2 (by
    rw [hfirst, toNat_continuation]
    omega)
  rw [decodeNext_of_shape (by omega) hshape rfl, combine_three, hfirst, toNat_continuation,
    toNat_continuation, toNat_continuation, show _ + _ = c.toNat by omega, Char.ofNat_toNat]
  · rfl
  · simp only [List.cons_append, List.nil_append, followers_succ hsecond,
      followers_succ (continuation_range _ 0x40), followers_succ (continuation_range _ 1),
      followers_zero]

end

/-- **The spelling of a character is read as this character**, whatever follows it. -/
theorem decodeNext_encodeChar (c : Char) (rest : Bytes) :
    ∃ first tail, encodeChar c = first :: tail ∧
      decodeNext first (tail ++ rest) = (some c, tail.length) := by
  -- one case for each length, by the bounds that the encoding tests
  by_cases hone : c.toNat < 0x80
  · exact decodeNext_one rest hone
  by_cases htwo : c.toNat < 0x800
  · exact decodeNext_two rest ⟨Nat.le_of_not_lt hone, htwo⟩
  by_cases hthree : c.toNat < 0x10000
  · exact decodeNext_three rest ⟨Nat.le_of_not_lt htwo, hthree⟩
  · exact decodeNext_four rest (Nat.le_of_not_lt hthree)

/-! ### Writing what was read -/

/-- Two bytes in range are those of the character they are read as. -/
theorem encodeChar_combine_one {first b : UInt8} (h : 0xC2 ≤ first.toNat ∧ first.toNat ≤ 0xDF)
    (hb : 0x80 ≤ b.toNat ∧ b.toNat ≤ 0xBF) : encodeChar (combine first [b]) = [first, b] := by
  rw [combine_one]
  unfold encodeChar
  rw [toNat_ofNat_of_range (by omega)]
  dsimp only
  rw [if_neg (by omega), if_pos (by omega), byte_eq (b := first) (by omega),
    byte_eq (b := b) (by omega)]

/-- Three bytes in range, which leave out short forms and surrogates, are those of their character.
-/
theorem encodeChar_combine_two {first b b' : UInt8}
    (h : 0xE0 ≤ first.toNat ∧ first.toNat ≤ 0xEF)
    (hb : (0x80 ≤ b.toNat ∧ b.toNat ≤ 0xBF) ∧
      0x20 ≤ first.toNat % 0x10 * 0x40 + b.toNat % 0x40 ∧
      (first.toNat % 0x10 * 0x40 + b.toNat % 0x40 < 0x360 ∨
        0x37F < first.toNat % 0x10 * 0x40 + b.toNat % 0x40))
    (hb' : 0x80 ≤ b'.toNat ∧ b'.toNat ≤ 0xBF) :
    encodeChar (combine first [b, b']) = [first, b, b'] := by
  rw [combine_two]
  unfold encodeChar
  rw [toNat_ofNat_of_range (by omega)]
  dsimp only
  rw [if_neg (by omega), if_neg (by omega), if_pos (by omega), byte_eq (b := first) (by omega),
    byte_eq (b := b) (by omega), byte_eq (b := b') (by omega)]

/-- Four bytes in range, which leave out short forms and what is too large, are those of their
character. -/
theorem encodeChar_combine_three {first b b' b'' : UInt8}
    (h : 0xF0 ≤ first.toNat ∧ first.toNat ≤ 0xF4)
    (hb : (0x80 ≤ b.toNat ∧ b.toNat ≤ 0xBF) ∧
      0x10 ≤ first.toNat % 0x8 * 0x40 + b.toNat % 0x40 ∧
      first.toNat % 0x8 * 0x40 + b.toNat % 0x40 < 0x110)
    (hb' : 0x80 ≤ b'.toNat ∧ b'.toNat ≤ 0xBF) (hb'' : 0x80 ≤ b''.toNat ∧ b''.toNat ≤ 0xBF) :
    encodeChar (combine first [b, b', b'']) = [first, b, b', b''] := by
  rw [combine_three]
  unfold encodeChar
  rw [toNat_ofNat_of_range (by omega)]
  dsimp only
  rw [if_neg (by omega), if_neg (by omega), if_neg (by omega), byte_eq (b := first) (by omega),
    byte_eq (b := b) (by omega), byte_eq (b := b') (by omega), byte_eq (b := b'') (by omega)]

/-- All followers and their first byte are the spelling of what they are read as. -/
theorem encodeChar_combine {first : UInt8} {rest : Bytes} {count low high : Nat}
    (hshape : sequenceShape first = some (count, low, high))
    (hlength : (followers count low high rest).length = count) :
    rest = followers count low high rest ++ rest.drop count ∧
      encodeChar (combine first (followers count low high rest)) =
        first :: followers count low high rest := by
  -- one case for each first octet: what was combined is again encoded at this length
  rcases range_of_sequenceShape hshape with htwo | hthree | hfour
  · rw [sequenceShape_two htwo] at hshape
    cases hshape
    obtain ⟨b, rest, rfl, hb, -⟩ := exists_of_length_followers hlength
    simp only [followers_succ hb, followers_zero]
    exact ⟨rfl, encodeChar_combine_one htwo hb⟩
  · obtain ⟨_, _, hthis, hbounds⟩ := sequenceShape_three first hthree
    rw [hthis] at hshape
    cases hshape
    obtain ⟨b, rest, rfl, hb, hlength⟩ := exists_of_length_followers hlength
    obtain ⟨b', rest, rfl, hb', -⟩ := exists_of_length_followers hlength
    simp only [followers_succ hb, followers_succ hb', followers_zero]
    exact ⟨rfl, encodeChar_combine_two hthree ((hbounds _).1 hb) hb'⟩
  · obtain ⟨_, _, hthis, hbounds⟩ := sequenceShape_four first hfour
    rw [hthis] at hshape
    cases hshape
    obtain ⟨b, rest, rfl, hb, hlength⟩ := exists_of_length_followers hlength
    obtain ⟨b', rest, rfl, hb', hlength⟩ := exists_of_length_followers hlength
    obtain ⟨b'', rest, rfl, hb'', -⟩ := exists_of_length_followers hlength
    simp only [followers_succ hb, followers_succ hb', followers_succ hb'', followers_zero]
    exact ⟨rfl, encodeChar_combine_three hfour ((hbounds _).1 hb) hb' hb''⟩

/-- **What is read as a character is its spelling**, and what is left comes after it. -/
theorem encodeChar_of_decodeNext {first : UInt8} {rest : Bytes} {c : Char} {count : Nat}
    (h : decodeNext first rest = (some c, count)) :
    first :: rest = encodeChar c ++ rest.drop count := by
  unfold decodeNext at h
  by_cases hone : first.toNat < 0x80
  · rw [if_pos hone, Prod.mk.injEq, Option.some.injEq] at h
    obtain ⟨rfl, rfl⟩ := h
    unfold encodeChar
    rw [toNat_ofNat_of_range (by omega), if_pos hone, UInt8.ofNat_toNat]
    rfl
  rw [if_neg hone] at h
  cases hshape : sequenceShape first with
  | none =>
    rw [hshape] at h
    exact absurd h (by simp)
  | some shape =>
    obtain ⟨length, low, high⟩ := shape
    rw [hshape] at h
    dsimp only at h
    -- a character comes only from a first octet with all of its followers
    by_cases hlength : (followers length low high rest).length = length
    · rw [if_pos hlength, Prod.mk.injEq, Option.some.injEq] at h
      obtain ⟨rfl, rfl⟩ := h
      obtain ⟨hrest, hchar⟩ := encodeChar_combine hshape hlength
      rw [hchar, List.cons_append, ← hrest]
    · rw [if_neg hlength] at h
      exact absurd h (by simp)

/-! ### Texts -/

/-- The bytes of characters are read as these characters. -/
theorem decodeAll_encode (chars : List Char) :
    decodeAll (chars.flatMap encodeChar) = chars.map some := by
  induction chars with
  | nil =>
    rw [List.flatMap_nil, decodeAll]
    rfl
  | cons c rest ih =>
    -- the octets of one character are read off as a whole, and the rest is what was behind
    obtain ⟨first, tail, hchar, hnext⟩ := decodeNext_encodeChar c (rest.flatMap encodeChar)
    rw [List.flatMap_cons, hchar, List.cons_append, decodeAll, hnext, List.drop_left, ih]
    rfl

/-- Bytes that are read as characters throughout are the bytes of these characters. -/
theorem eq_encode_of_decodeAll {bytes : Bytes} {chars : List Char}
    (h : decodeAll bytes = chars.map some) : bytes = chars.flatMap encodeChar := by
  -- on the characters: each of them consumes its own octets and no more
  induction chars generalizing bytes with
  | nil =>
    cases bytes with
    | nil => rfl
    | cons first rest =>
      rw [decodeAll] at h
      exact absurd h (by simp)
  | cons c chars ih =>
    cases bytes with
    | nil =>
      rw [decodeAll] at h
      exact absurd h (by simp)
    | cons first rest =>
      rw [decodeAll, List.map_cons, List.cons.injEq] at h
      obtain ⟨hfirst, hrest⟩ := h
      rw [List.flatMap_cons, ← ih hrest]
      exact encodeChar_of_decodeNext (Prod.ext hfirst rfl)

/-- All options have a value exactly where they are the values. -/
theorem mapM_id_eq_some_iff {α : Type} {options : List (Option α)} {values : List α} :
    options.mapM id = some values ↔ options = values.map some := by
  induction options generalizing values with
  | nil => cases values <;> simp
  | cons option rest ih =>
    cases option with
    | none => cases values <;> simp
    | some value => cases values <;> simp [Option.bind_eq_some_iff, ih, and_comm, and_assoc]

/-- **Reading and writing a text are inverse**: bytes are read as a text exactly if they are the
bytes of this text, so bytes that are those of no text are not read at all. -/
theorem decodeText?_eq_some_iff {bytes : Bytes} {text : String} :
    decodeText? bytes = some text ↔ bytes = encodeText text := by
  unfold decodeText? encodeText
  rw [Option.map_eq_some_iff]
  constructor
  · -- octets with no invalid sequence are the encoding of what they decode to
    rintro ⟨chars, hchars, rfl⟩
    rw [String.toList_ofList]
    exact eq_encode_of_decodeAll (mapM_id_eq_some_iff.1 hchars)
  · rintro rfl
    exact ⟨text.toList, mapM_id_eq_some_iff.2 (decodeAll_encode _), String.ofList_toList⟩

end TreeOutline
