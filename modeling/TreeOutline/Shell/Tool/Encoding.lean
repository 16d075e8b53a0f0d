import TreeOutline.Shell.Tool.Letters

namespace TreeOutline

/-!
# Bytes in letters

* `Shell.LetterCode` — a code that writes groups of bytes in groups of letters.
* `LetterCode.encode`, `LetterCode.decode` — bytes written in letters and read again.
* `Shell.encodingTool` — the tool that does it for files.
-/

namespace Shell

/-- A code of letters: the letters for the digits of a base, how many of them stand for how many
bytes, and whether a last group that is too short is read as far as it goes. -/
structure LetterCode where
  letters : List Char
  group : Nat
  bytes : Nat
  readsShort : Bool

namespace LetterCode

/-- Letters for six bits each. -/
def sixBits : LetterCode :=
  ⟨charRange 'A' 'Z' ++ charRange 'a' 'z' ++ charRange '0' '9' ++ ['+', '/'], 4, 3, true⟩

/-- Letters for five bits each. -/
def fiveBits : LetterCode := ⟨charRange 'A' 'Z' ++ charRange '2' '7', 8, 5, false⟩

/-- How many letters are needed for some bytes. -/
def needed (code : LetterCode) (bytes : Nat) : Nat :=
  (bytes * code.group + code.bytes - 1) / code.bytes

/-- The digits of a number in a base, a given number of them, the highest one first. -/
def digits (base : Nat) : (count : Nat) → Nat → List Nat
  | 0, _ => []
  | count + 1, n => digits base count (n / base) ++ [n % base]

@[simp] theorem length_digits (base count n : Nat) : (digits base count n).length = count := by
  induction count generalizing n with
  | zero => rfl
  | succ count ih => rw [digits, List.length_append, ih]; rfl

/-- Digits are below the base. -/
theorem lt_of_mem_digits {base count n digit : Nat} (hbase : 0 < base)
    (h : digit ∈ digits base count n) : digit < base := by
  induction count generalizing n with
  | zero => exact absurd h List.not_mem_nil
  | succ count ih =>
    rw [digits, List.mem_append, List.mem_singleton] at h
    rcases h with h | rfl
    · exact ih h
    · exact Nat.mod_lt n hbase

/-- The letters for a group of bytes, filled up with equality signs. -/
def encodeGroup (code : LetterCode) (bytes : List Char) : List Char :=
  let filled := bytes ++ List.replicate (code.bytes - bytes.length) '\x00'
  let n := filled.foldl (fun n c => 256 * n + c.toNat) 0
  let letters := (digits code.letters.length code.group n).map fun i => code.letters.getD i 'A'
  let count := code.needed bytes.length
  letters.take count ++ List.replicate (code.group - count) '='

/-- Bytes in letters. -/
def encode (code : LetterCode) (bytes : List Char) : List Char :=
  (piecesOf code.bytes (bytes.length + 1) bytes).flatMap code.encodeGroup

/-- The bytes that a group of letters, perhaps a shorter one, stands for. -/
def decodeGroup (code : LetterCode) (letters : List Char) : List Char :=
  let filled := letters ++ List.replicate (code.group - letters.length) 'A'
  let n := filled.foldl (fun n c => code.letters.length * n + (code.letters.idxOf? c).getD 0) 0
  ((digits 256 code.bytes n).map Char.ofNat).take (letters.length * code.bytes / code.group)

/-- Whether letters are a complete group: as many as some bytes need, and equality signs. -/
def isComplete (code : LetterCode) (group : List Char) : Bool :=
  let letters := group.takeWhile (code.letters.contains ·)
  group.length = code.group && (group.drop letters.length).all (· = '=') &&
    (List.range (code.bytes + 1)).any fun n => n ≠ 0 && letters.length = code.needed n

/-- The bytes that groups of letters stand for up to the first one that cannot be read, and whether
all can be. -/
def decodeGroups (code : LetterCode) : List (List Char) → List Char × Bool
  | [] => ([], true)
  | group :: rest =>
    let bytes := code.decodeGroup (group.takeWhile (code.letters.contains ·))
    if ¬ code.readsShort ∧ group.length < code.group then ([], false)
    else if ¬ code.isComplete group then (bytes, false)
    else
      let (more, complete) := decodeGroups code rest
      (bytes ++ more, complete)

/-- The bytes that letters stand for, as far as they can be read, and whether all can be. -/
def decode (code : LetterCode) (chars : List Char) : List Char × Bool :=
  code.decodeGroups (piecesOf code.group (chars.length + 1) chars)

end LetterCode

/-- Writes the bytes of a file in letters, in lines that `-w` makes so long, or with `-d` reads them
again; with `-i` what is no letter does not matter. -/
def encodingTool (tool : String) (code : LetterCode) (task : Task) : Report :=
  let table : OptionTable := ⟨"di", "w", [("decode", 'd'), ("ignore-garbage", 'i'), ("wrap", 'w')]⟩
  task.withOptions tool 1 table fun options paths =>
    let (found, complaint) := task.sources paths (Task.missing tool)
    let text := found.flatMap (·.2)
    let left := if Task.readsInput paths then [] else task.input
    let value := (optionValue? options 'w').getD "76"
    match paths, natural? value with
    | _ :: extra :: _, _ => .misused task tool 1 s!"extra operand '{extra}'"
    | _, none => .complaining task 1 s!"{tool}: invalid wrap size: '{value}'"
    | _, some width =>
      if ¬ complaint.isEmpty then ⟨[], complaint, 1, left⟩
      else if hasOption options 'd' then
        let isLetter (c : Char) : Bool := c == '=' || code.letters.contains c
        let chars := text.filter fun c =>
          c != '\n' && (!hasOption options 'i' || isLetter c)
        let (bytes, complete) := code.decode chars
        if complete then ⟨bytes, [], 0, left⟩
        else ⟨bytes, s!"{tool}: invalid input\n".toList, 1, left⟩
      else
        let chars := code.encode text
        ⟨if width = 0 then chars else joinLines (piecesOf width (chars.length + 1) chars),
          [], 0, left⟩

end Shell

end TreeOutline
