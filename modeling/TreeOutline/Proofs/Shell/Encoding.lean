import TreeOutline.Proofs.Shell.PlaceValue

namespace TreeOutline

/-!
# Reading letters that have been written

A code writes a group of bytes as digits of one number, and fills up what is missing with zeros.

* `LetterCode.groupNumber` — the number of a group of bytes; `encodeGroup_eq` and `decodeGroup_eq`
  say letters and bytes as its digits in two bases.
* `LetterCode.Faithful` — what a code must be like so that letters can be read again; both codes
  are (`sixBits_faithful`, `fiveBits_faithful`).
* `Faithful.decodeGroup_encodeGroup` — a group of bytes is read again from its letters.
* `Faithful.decode_encode` — so are bytes of any number, the last group being perhaps a short one.
-/

namespace Shell

namespace LetterCode

/-! ### Groups as numbers -/

/-- The values of a group of bytes, filled up with zeros. -/
def groupValues (code : LetterCode) (bytes : List Char) : List Nat :=
  bytes.map Char.toNat ++ List.replicate (code.bytes - bytes.length) 0

/-- The number that a group of bytes stands for. -/
def groupNumber (code : LetterCode) (bytes : List Char) : Nat :=
  placeValue 256 (code.groupValues bytes)

/-- The letters of a group are those for the digits of its number, as far as they are needed. -/
theorem encodeGroup_eq (code : LetterCode) (bytes : List Char) :
    code.encodeGroup bytes =
      ((digits code.letters.length code.group (code.groupNumber bytes)).map fun i =>
        code.letters.getD i 'A').take (code.needed bytes.length) ++
      List.replicate (code.group - code.needed bytes.length) '=' := by
  have hnumber : (bytes ++ List.replicate (code.bytes - bytes.length) '\x00').foldl
      (fun n c => 256 * n + c.toNat) 0 = code.groupNumber bytes := by
    rw [groupNumber, groupValues, placeValue, ← List.foldl_map, List.map_append,
      List.map_replicate]
    rfl
  rw [encodeGroup, hnumber]

/-- The bytes of a group of letters are the digits of the number that its letters stand for. -/
theorem decodeGroup_eq (code : LetterCode) (letters : List Char) :
    code.decodeGroup letters =
      ((digits 256 code.bytes (placeValue code.letters.length
        ((letters ++ List.replicate (code.group - letters.length) 'A').map fun c =>
          (code.letters.idxOf? c).getD 0))).map Char.ofNat).take
        (letters.length * code.bytes / code.group) := by
  rw [decodeGroup, placeValue, List.foldl_map]

/-- Zeros stand for nothing. -/
theorem placeValue_replicate_zero (base count : Nat) :
    placeValue base (List.replicate count 0) = 0 := by
  induction count with
  | zero => rfl
  | succ count ih => rw [List.replicate_succ', placeValue_append, ih]; rfl

section GroupNumber

variable {code : LetterCode} {bytes : List Char}

/-- The bytes that a short group lacks are zeros of its number. -/
theorem pow_dvd_groupNumber (code : LetterCode) (bytes : List Char) :
    256 ^ (code.bytes - bytes.length) ∣ code.groupNumber bytes := by
  rw [groupNumber, groupValues, placeValue_append, placeValue_replicate_zero, Nat.add_zero,
    List.length_replicate]
  exact Nat.dvd_mul_right _ _

/-- A group has all of its values. -/
theorem length_groupValues (hlength : bytes.length ≤ code.bytes) :
    (code.groupValues bytes).length = code.bytes := by
  simp [groupValues]; omega

/-- Values of bytes are bytes. -/
theorem lt_of_mem_groupValues (hbytes : ∀ c ∈ bytes, c.toNat < 256) :
    ∀ value ∈ code.groupValues bytes, value < 256 := by
  intro value hvalue
  rcases List.mem_append.1 hvalue with hvalue | hvalue
  · obtain ⟨c, hc, rfl⟩ := List.mem_map.1 hvalue
    exact hbytes c hc
  · rw [List.eq_of_mem_replicate hvalue]
    decide

/-- The digits of the number of a group are its bytes. -/
theorem digits_groupNumber (hlength : bytes.length ≤ code.bytes)
    (hbytes : ∀ c ∈ bytes, c.toNat < 256) :
    digits 256 code.bytes (code.groupNumber bytes) = code.groupValues bytes := by
  rw [← length_groupValues hlength]
  exact digits_placeValue (lt_of_mem_groupValues hbytes)

/-- The number of a group has no more bytes than the group. -/
theorem groupNumber_lt (hlength : bytes.length ≤ code.bytes)
    (hbytes : ∀ c ∈ bytes, c.toNat < 256) : code.groupNumber bytes < 256 ^ code.bytes := by
  rw [← length_groupValues hlength]
  exact placeValue_lt (lt_of_mem_groupValues hbytes)

end GroupNumber

/-! ### Codes that can be read -/

/-- What a code must be like so that letters can be read again: as many different letters as some
bits tell apart, with `A` for zero and without the sign that fills groups up, and as many bits in a
group of letters as in a group of bytes. -/
structure Faithful (code : LetterCode) (bits : Nat) : Prop where
  length_eq : code.letters.length = 2 ^ bits
  nodup : code.letters.Nodup
  zero : code.letters[0]? = some 'A'
  no_mark : '=' ∉ code.letters
  bits_eq : bits * code.group = 8 * code.bytes
  bytes_pos : 0 < code.bytes
  bytes_le : code.bytes ≤ code.group

/-- The code of six bits has a letter of its own for each value. -/
theorem sixBits_faithful : sixBits.Faithful 6 := by
  constructor <;> decide

/-- The code of five bits has one for each value, too. -/
theorem fiveBits_faithful : fiveBits.Faithful 5 := by
  constructor <;> decide

namespace Faithful

variable {code : LetterCode} {bits : Nat}

/-- The digit that a letter stands for is the one for which it is written. -/
theorem idxOf?_getD (h : code.Faithful bits) {i : Nat} (hi : i < 2 ^ bits) :
    (code.letters.idxOf? (code.letters.getD i 'A')).getD 0 = i := by
  have hi : i < code.letters.length := by rw [h.length_eq]; exact hi
  have hletter : code.letters.getD i 'A' = code.letters[i] := by
    rw [List.getD_eq_getElem?_getD, List.getElem?_eq_getElem hi, Option.getD_some]
  rw [hletter, List.idxOf?_eq_some_iff.2 ⟨hi, rfl, fun j hj heq => ?_⟩, Option.getD_some]
  -- an earlier place with the same letter would be a repetition
  have hj' : j < code.letters.length := Nat.lt_trans hj hi
  refine Nat.ne_of_lt hj ((List.getElem?_inj hj' h.nodup).1 ?_)
  rw [List.getElem?_eq_getElem hj', List.getElem?_eq_getElem hi, heq]

/-- The letter that fills groups up before they are read stands for zero. -/
theorem idxOf?_zero (h : code.Faithful bits) : (code.letters.idxOf? 'A').getD 0 = 0 := by
  have hzero := h.idxOf?_getD (Nat.two_pow_pos bits)
  rwa [List.getD_eq_getElem?_getD, h.zero, Option.getD_some] at hzero

/-- How many letters are needed: enough for all bits of the bytes, and no more than that. -/
theorem needed_bounds (h : code.Faithful bits) (count : Nat) :
    count * code.group ≤ code.needed count * code.bytes ∧
      code.needed count * code.bytes < count * code.group + code.bytes := by
  have hdiv := Nat.div_add_mod (count * code.group + code.bytes - 1) code.bytes
  have hmod := Nat.mod_lt (count * code.group + code.bytes - 1) h.bytes_pos
  have hpos := h.bytes_pos
  rw [Nat.mul_comm] at hdiv
  rw [needed]
  omega

/-- A group of bytes needs at most a group of letters. -/
theorem needed_le (h : code.Faithful bits) {count : Nat} (hcount : count ≤ code.bytes) :
    code.needed count ≤ code.group := by
  have hle := Nat.mul_le_mul_right code.group hcount
  have hlt := (h.needed_bounds count).2
  refine Nat.le_of_lt_succ (Nat.lt_of_mul_lt_mul_right (a := code.bytes) ?_)
  rw [Nat.succ_mul, Nat.mul_comm code.group]
  omega

/-- So many letters are read as so many bytes again. -/
theorem needed_mul_div (h : code.Faithful bits) (count : Nat) :
    code.needed count * code.bytes / code.group = count := by
  have hbounds := h.needed_bounds count
  have hle := h.bytes_le
  refine Nat.div_eq_of_lt_le (by omega) ?_
  rw [Nat.succ_mul]
  omega

/-- The last letters of a group that are not needed would stand for zeros. -/
theorem pow_dvd_pow (h : code.Faithful bits) (count : Nat) :
    (2 ^ bits) ^ (code.group - code.needed count) ∣ 256 ^ (code.bytes - count) := by
  rw [show 256 = 2 ^ 8 from rfl, ← Nat.pow_mul, ← Nat.pow_mul]
  refine Nat.pow_dvd_pow 2 (Nat.le_of_mul_le_mul_right ?_ h.bytes_pos)
  -- bits of the letters left out against bits of the octets left out, times the octets
  calc bits * (code.group - code.needed count) * code.bytes
      = bits * (code.group * code.bytes - code.needed count * code.bytes) := by
        rw [Nat.mul_assoc, Nat.sub_mul]
    _ ≤ bits * (code.group * code.bytes - count * code.group) :=
        Nat.mul_le_mul_left bits (Nat.sub_le_sub_left (h.needed_bounds count).1 _)
    _ = bits * code.group * (code.bytes - count) := by
        rw [Nat.mul_comm count, ← Nat.mul_sub, Nat.mul_assoc]
    _ = 8 * (code.bytes - count) * code.bytes := by
        rw [h.bits_eq, Nat.mul_right_comm]

variable {bytes : List Char}

/-- The letters of a group are not taken for the signs that fill it up. -/
theorem takeWhile_encodeGroup (h : code.Faithful bits) (bytes : List Char) :
    (code.encodeGroup bytes).takeWhile (code.letters.contains ·) =
      ((digits (2 ^ bits) code.group (code.groupNumber bytes)).map fun i =>
        code.letters.getD i 'A').take (code.needed bytes.length) := by
  rw [encodeGroup_eq, h.length_eq, List.takeWhile_append_of_pos, List.takeWhile_replicate]
  · simp [h.no_mark]
  · -- each letter is taken from the alphabet, and the padding mark is not in it
    intro letter hletter
    obtain ⟨i, hi, rfl⟩ := List.mem_map.1 (List.mem_of_mem_take hletter)
    have hi : i < code.letters.length := by
      rw [h.length_eq]
      exact lt_of_mem_digits (Nat.two_pow_pos bits) hi
    rw [List.getD_eq_getElem?_getD, List.getElem?_eq_getElem hi]
    simp

/-- A group of letters is as many bits as a group of bytes. -/
theorem pow_group (h : code.Faithful bits) : (2 ^ bits) ^ code.group = 256 ^ code.bytes := by
  rw [← Nat.pow_mul, h.bits_eq, show 256 = 2 ^ 8 from rfl, ← Nat.pow_mul]

/-- The letters that are needed, filled up with zeros, stand for the digits of the group. -/
theorem digits_of_letters (h : code.Faithful bits) (hlength : bytes.length ≤ code.bytes) :
    ((((digits (2 ^ bits) code.group (code.groupNumber bytes)).map fun i =>
      code.letters.getD i 'A').take (code.needed bytes.length) ++
        List.replicate (code.group - code.needed bytes.length) 'A').map fun c =>
          (code.letters.idxOf? c).getD 0) =
      digits (2 ^ bits) code.group (code.groupNumber bytes) := by
  have hread : (digits (2 ^ bits) code.group (code.groupNumber bytes)).map (fun i =>
      (code.letters.idxOf? (code.letters.getD i 'A')).getD 0) =
      digits (2 ^ bits) code.group (code.groupNumber bytes) :=
    (List.map_congr_left fun i hi => h.idxOf?_getD
      (lt_of_mem_digits (Nat.two_pow_pos bits) hi)).trans (List.map_id' _)
  -- the digits not written are zeros, as are the octets they would stand for
  have hzeros := digits_of_dvd (Nat.dvd_trans (h.pow_dvd_pow bytes.length)
    (code.pow_dvd_groupNumber bytes))
  have hsplit := digits_add (2 ^ bits) (code.needed bytes.length)
    (code.group - code.needed bytes.length) (code.groupNumber bytes)
  rw [Nat.add_sub_cancel' (h.needed_le hlength)] at hsplit
  rw [List.map_append, List.map_replicate, h.idxOf?_zero, List.map_take, List.map_map]
  rw [show ((fun c => (code.letters.idxOf? c).getD 0) ∘ fun i => code.letters.getD i 'A') =
    fun i => (code.letters.idxOf? (code.letters.getD i 'A')).getD 0 from rfl, hread, ← hzeros]
  rw [hsplit, List.take_left' (length_digits ..)]

/-- **A group of bytes is read again** from its letters. -/
theorem decodeGroup_encodeGroup (h : code.Faithful bits) (hlength : bytes.length ≤ code.bytes)
    (hbytes : ∀ c ∈ bytes, c.toNat < 256) :
    code.decodeGroup ((code.encodeGroup bytes).takeWhile (code.letters.contains ·)) = bytes := by
  have hneeded : (((digits (2 ^ bits) code.group (code.groupNumber bytes)).map fun i =>
      code.letters.getD i 'A').take (code.needed bytes.length)).length =
        code.needed bytes.length := by
    rw [List.length_take, List.length_map, length_digits, Nat.min_eq_left (h.needed_le hlength)]
  -- letters to digits, digits to the number, the number to its octets
  have hnumber := groupNumber_lt hlength hbytes
  rw [h.takeWhile_encodeGroup, decodeGroup_eq, hneeded, h.needed_mul_div,
    h.digits_of_letters hlength, h.length_eq, placeValue_digits, h.pow_group,
    Nat.mod_eq_of_lt hnumber,
    digits_groupNumber hlength hbytes, groupValues, List.map_append, List.map_map,
    List.take_left' (List.length_map _)]
  simp [Function.comp_def]

/-- A group of bytes is written as a whole group of letters. -/
theorem length_encodeGroup (h : code.Faithful bits) (hlength : bytes.length ≤ code.bytes) :
    (code.encodeGroup bytes).length = code.group := by
  have hneeded := h.needed_le hlength
  simp [encodeGroup_eq]
  omega

/-- A group of bytes is written as a complete group of letters. -/
theorem isComplete_encodeGroup (h : code.Faithful bits) (hlength : bytes.length ≤ code.bytes)
    (hne : bytes ≠ []) : code.isComplete (code.encodeGroup bytes) = true := by
  have hletters : ((code.encodeGroup bytes).takeWhile (code.letters.contains ·)).length =
      code.needed bytes.length := by
    rw [h.takeWhile_encodeGroup, List.length_take, List.length_map, length_digits,
      Nat.min_eq_left (h.needed_le hlength)]
  -- as many letters as the octets need, and padding marks behind them
  have hmarks : (code.encodeGroup bytes).drop (code.needed bytes.length) =
      List.replicate (code.group - code.needed bytes.length) '=' := by
    rw [encodeGroup_eq, List.drop_left']
    rw [List.length_take, List.length_map, length_digits, Nat.min_eq_left (h.needed_le hlength)]
  rw [isComplete, hletters, hmarks, h.length_encodeGroup hlength]
  simp only [decide_true, Bool.true_and, Bool.and_eq_true, List.any_eq_true, List.mem_range]
  refine ⟨by simp, bytes.length, Nat.lt_succ_of_le hlength, ?_⟩
  simp [hne]

/-- Groups are read one after the other. -/
theorem decodeGroups_encodeGroup (h : code.Faithful bits) {groups : List (List Char)}
    (hgroups : ∀ group ∈ groups, group ≠ [] ∧ group.length ≤ code.bytes ∧
      ∀ c ∈ group, c.toNat < 256) :
    code.decodeGroups (groups.map code.encodeGroup) = (groups.flatten, true) := by
  -- each group is complete, so decoding goes on to the next
  induction groups with
  | nil => rfl
  | cons group groups ih =>
    obtain ⟨hne, hlength, hbytes⟩ := hgroups group List.mem_cons_self
    have ih := ih fun other hother => hgroups other (List.mem_cons_of_mem group hother)
    rw [List.map_cons, decodeGroups, h.length_encodeGroup hlength,
      h.isComplete_encodeGroup hlength hne, h.decodeGroup_encodeGroup hlength hbytes, ih]
    simp

/-- **What is written in letters is read again**, whatever the bytes. -/
theorem decode_encode (h : code.Faithful bits) {bytes : List Char}
    (hbytes : ∀ c ∈ bytes, c.toNat < 256) : code.decode (code.encode bytes) = (bytes, true) := by
  have hbytesPos := Nat.ne_of_gt h.bytes_pos
  have hflatten := flatten_piecesOf hbytesPos (Nat.lt_succ_self bytes.length)
  have hgroups : ∀ group ∈ piecesOf code.bytes (bytes.length + 1) bytes,
      group ≠ [] ∧ group.length ≤ code.bytes ∧ ∀ c ∈ group, c.toNat < 256 := by
    intro group hgroup
    refine ⟨ne_nil_of_mem_piecesOf hgroup, length_le_of_mem_piecesOf hgroup, fun c hc => ?_⟩
    exact hbytes c (hflatten ▸ List.mem_flatten_of_mem hgroup hc)
  have hpieces : ∀ piece ∈ (piecesOf code.bytes (bytes.length + 1) bytes).map code.encodeGroup,
      piece.length = code.group := by
    intro piece hpiece
    obtain ⟨group, hgroup, rfl⟩ := List.mem_map.1 hpiece
    exact h.length_encodeGroup (hgroups group hgroup).2.1
  have hgroupPos : code.group ≠ 0 := Nat.ne_of_gt (Nat.lt_of_lt_of_le h.bytes_pos h.bytes_le)
  -- the text falls apart into the groups it was put together from
  rw [decode, encode, List.flatMap_def, piecesOf_flatten hgroupPos hpieces (Nat.lt_succ_self _),
    h.decodeGroups_encodeGroup hgroups, hflatten]

end Faithful

end LetterCode

end Shell

end TreeOutline
