import TreeOutline.Shell.Tool.Basic

namespace TreeOutline

/-!
# Digests of files

* `Shell.md5`, `Shell.sha1`, `Shell.sha224`, `Shell.sha256` — digests of a text by blocks of 64
  bytes; how long they are does not depend on the text (`Shell.length_md5` and so on).
* `Shell.crc` — the remainder of a text as a polynomial.
* `Shell.digestTool`, `Shell.cksum`, `Shell.sum` — the tools.
-/

namespace Shell

/-! ### Words and blocks -/

/-- The word of up to four bytes, the first one the highest. -/
def wordOf (bytes : List Char) : UInt32 :=
  bytes.foldl (fun word c => word * 256 + UInt32.ofNat c.toNat) 0

/-- The bytes of a word, the highest first. -/
def bytesOf (word : UInt32) : List Char :=
  [word >>> 24, word >>> 16, word >>> 8, word].map fun w => Char.ofNat (w.toNat % 256)

@[simp] theorem length_bytesOf (word : UInt32) : (bytesOf word).length = 4 := rfl

@[simp] theorem length_flatMap_bytesOf (words : List UInt32) :
    (words.flatMap bytesOf).length = 4 * words.length := by
  simp [List.length_flatMap, List.map_const', Nat.mul_comm]

/-- A word turned to the left. -/
def turnLeft (word count : UInt32) : UInt32 := (word <<< count) ||| (word >>> (32 - count))

/-- A word turned to the right. -/
def turnRight (word count : UInt32) : UInt32 := (word >>> count) ||| (word <<< (32 - count))

/-- A text filled up to whole blocks: a mark, zeros, and its length in bits, in eight bytes. -/
def filled (lowFirst : Bool) (text : List Char) : List Char :=
  let zeros := (119 - text.length % 64) % 64
  let bits := 8 * text.length
  let count := bytesOf (UInt32.ofNat (bits / 0x100000000 % 0x100000000)) ++
    bytesOf (UInt32.ofNat (bits % 0x100000000))
  text ++ '\x80' :: List.replicate zeros '\x00' ++ (if lowFirst then count.reverse else count)

/-- **A filled text is made of whole blocks.** -/
theorem length_filled_mod (lowFirst : Bool) (text : List Char) :
    (filled lowFirst text).length % 64 = 0 := by
  cases lowFirst <;> simp [filled] <;> omega

/-- The blocks of a text, each by its sixteen words. -/
def blocksOf (lowFirst : Bool) (text : List Char) : List (List UInt32) :=
  let bytes := filled lowFirst text
  (piecesOf 64 (bytes.length + 1) bytes).map fun block =>
    (piecesOf 4 17 block).map fun bytes => wordOf (if lowFirst then bytes.reverse else bytes)

/-- Bytes in hexadecimal digits. -/
def hexText (bytes : List Char) : List Char :=
  bytes.flatMap fun c => [Nat.digitChar (c.toNat / 16), Nat.digitChar (c.toNat % 16)]

/-- Bytes take two digits each. -/
@[simp] theorem length_hexText (bytes : List Char) :
    (hexText bytes).length = 2 * bytes.length := by
  simp [hexText, List.length_flatMap, List.map_const', Nat.mul_comm]

/-! ### Rounds -/

/-- What each step of a round adds. -/
def md5Addends : List UInt32 :=
  [0xd76aa478, 0xe8c7b756, 0x242070db, 0xc1bdceee, 0xf57c0faf, 0x4787c62a, 0xa8304613,
    0xfd469501, 0x698098d8, 0x8b44f7af, 0xffff5bb1, 0x895cd7be, 0x6b901122, 0xfd987193,
    0xa679438e, 0x49b40821, 0xf61e2562, 0xc040b340, 0x265e5a51, 0xe9b6c7aa, 0xd62f105d,
    0x02441453, 0xd8a1e681, 0xe7d3fbc8, 0x21e1cde6, 0xc33707d6, 0xf4d50d87, 0x455a14ed,
    0xa9e3e905, 0xfcefa3f8, 0x676f02d9, 0x8d2a4c8a, 0xfffa3942, 0x8771f681, 0x6d9d6122,
    0xfde5380c, 0xa4beea44, 0x4bdecfa9, 0xf6bb4b60, 0xbebfbc70, 0x289b7ec6, 0xeaa127fa,
    0xd4ef3085, 0x04881d05, 0xd9d4d039, 0xe6db99e5, 0x1fa27cf8, 0xc4ac5665, 0xf4292244,
    0x432aff97, 0xab9423a7, 0xfc93a039, 0x655b59c3, 0x8f0ccc92, 0xffeff47d, 0x85845dd1,
    0x6fa87e4f, 0xfe2ce6e0, 0xa3014314, 0x4e0811a1, 0xf7537e82, 0xbd3af235, 0x2ad7d2bb,
    0xeb86d391]

/-- How far each step of a round turns. -/
def md5Turns : List (List UInt32) :=
  [[7, 12, 17, 22], [5, 9, 14, 20], [4, 11, 16, 23], [6, 10, 15, 21]]

/-- One step: the four words, and the next one of a block mixed into them. -/
def md5Step (block : List UInt32) (words : UInt32 × UInt32 × UInt32 × UInt32)
    (step : UInt32 × Nat) : UInt32 × UInt32 × UInt32 × UInt32 :=
  let (a, b, c, d) := words
  let (addend, i) := step
  let (mixed, place) : UInt32 × Nat := match i / 16 with
    | 0 => ((b &&& c) ||| ((~~~b) &&& d), i)
    | 1 => ((d &&& b) ||| ((~~~d) &&& c), (5 * i + 1) % 16)
    | 2 => (b ^^^ c ^^^ d, (3 * i + 5) % 16)
    | _ => (c ^^^ (b ||| (~~~d)), 7 * i % 16)
  let turn := (md5Turns.getD (i / 16) []).getD (i % 4) 0
  (d, b + turnLeft (a + mixed + addend + block.getD place 0) turn, b, c)

/-- The digest of a text in sixteen bytes, made in 64 steps for each block. -/
def md5 (text : List Char) : List Char :=
  let start : UInt32 × UInt32 × UInt32 × UInt32 := (0x67452301, 0xefcdab89, 0x98badcfe, 0x10325476)
  let (a, b, c, d) := (blocksOf true text).foldl (fun words block =>
    let (a, b, c, d) := words
    let (a', b', c', d') := (md5Addends.zipIdx).foldl (md5Step block) words
    (a + a', b + b', c + c', d + d')) start
  [a, b, c, d].flatMap fun word => (bytesOf word).reverse

/-- A digest takes sixteen bytes, whatever the text. -/
theorem length_md5 (text : List Char) : (md5 text).length = 16 := by
  simp [md5]

/-- Steps that keep the number of words, and blocks that are added to the words, keep it. -/
theorem length_foldl_zipWith {α β : Type} [Add α] {start : List α} {blocks : List β}
    {mixed : List α → β → List α}
    (hmixed : ∀ words block, words.length = start.length →
      (mixed words block).length = start.length) :
    (blocks.foldl (fun words block =>
      List.zipWith (· + ·) words (mixed words block)) start).length = start.length := by
  suffices h : ∀ words : List α, words.length = start.length →
      (blocks.foldl (fun words block =>
        List.zipWith (· + ·) words (mixed words block)) words).length = start.length from
    h start rfl
  induction blocks with
  | nil => exact fun words hwords => hwords
  | cons block blocks ih =>
    intro words hwords
    refine ih _ ?_
    rw [List.length_zipWith, hmixed words block hwords, hwords, Nat.min_self]

/-- Steps that keep a number of items keep it when they are taken one after the other. -/
theorem length_foldl_of_step {α β : Type} {step : List α → β → List α}
    (hstep : ∀ words next, (step words next).length = words.length) (words : List α)
    (nexts : List β) : (nexts.foldl step words).length = words.length := by
  induction nexts generalizing words with
  | nil => rfl
  | cons next nexts ih => rw [List.foldl_cons, ih, hstep]

/-- The words of a block with those made of them, latest first. -/
def sha1Words (block : List UInt32) : List UInt32 :=
  (List.range 64).foldl (fun words _ =>
    let at' (i : Nat) : UInt32 := words.getD i 0
    turnLeft (at' 2 ^^^ at' 7 ^^^ at' 13 ^^^ at' 15) 1 :: words) block.reverse

/-- The digest of a text in twenty bytes, made in 80 steps for each block. -/
def sha1 (text : List Char) : List Char :=
  let step (words : List UInt32) (next : UInt32 × Nat) : List UInt32 :=
    match words with
    | [a, b, c, d, e] =>
      let (mixed, addend) : UInt32 × UInt32 := match next.2 / 20 with
        | 0 => ((b &&& c) ||| ((~~~b) &&& d), 0x5a827999)
        | 1 => (b ^^^ c ^^^ d, 0x6ed9eba1)
        | 2 => ((b &&& c) ||| (b &&& d) ||| (c &&& d), 0x8f1bbcdc)
        | _ => (b ^^^ c ^^^ d, 0xca62c1d6)
      [turnLeft a 5 + mixed + e + addend + next.1, a, turnLeft b 30, c, d]
    | words => words
  let words := (blocksOf false text).foldl (fun words block =>
    List.zipWith (· + ·) words ((sha1Words block).reverse.zipIdx.foldl step words))
    [0x67452301, 0xefcdab89, 0x98badcfe, 0x10325476, 0xc3d2e1f0]
  words.flatMap bytesOf

/-- A digest takes twenty bytes, whatever the text. -/
theorem length_sha1 (text : List Char) : (sha1 text).length = 20 := by
  rw [sha1, length_flatMap_bytesOf, length_foldl_zipWith]
  · rfl
  · intro words block hwords
    rw [length_foldl_of_step ?_, hwords]
    intro words next
    dsimp only
    split <;> rfl

/-- The first 32 bits behind the point of the cube roots of the first 64 primes. -/
def cubeRoots : List UInt32 :=
  [0x428a2f98, 0x71374491, 0xb5c0fbcf, 0xe9b5dba5, 0x3956c25b, 0x59f111f1, 0x923f82a4,
    0xab1c5ed5, 0xd807aa98, 0x12835b01, 0x243185be, 0x550c7dc3, 0x72be5d74, 0x80deb1fe,
    0x9bdc06a7, 0xc19bf174, 0xe49b69c1, 0xefbe4786, 0x0fc19dc6, 0x240ca1cc, 0x2de92c6f,
    0x4a7484aa, 0x5cb0a9dc, 0x76f988da, 0x983e5152, 0xa831c66d, 0xb00327c8, 0xbf597fc7,
    0xc6e00bf3, 0xd5a79147, 0x06ca6351, 0x14292967, 0x27b70a85, 0x2e1b2138, 0x4d2c6dfc,
    0x53380d13, 0x650a7354, 0x766a0abb, 0x81c2c92e, 0x92722c85, 0xa2bfe8a1, 0xa81a664b,
    0xc24b8b70, 0xc76c51a3, 0xd192e819, 0xd6990624, 0xf40e3585, 0x106aa070, 0x19a4c116,
    0x1e376c08, 0x2748774c, 0x34b0bcb5, 0x391c0cb3, 0x4ed8aa4a, 0x5b9cca4f, 0x682e6ff3,
    0x748f82ee, 0x78a5636f, 0x84c87814, 0x8cc70208, 0x90befffa, 0xa4506ceb, 0xbef9a3f7,
    0xc67178f2]

/-- The same of the square roots of the first eight primes. -/
def squareRoots : List UInt32 :=
  [0x6a09e667, 0xbb67ae85, 0x3c6ef372, 0xa54ff53a, 0x510e527f, 0x9b05688c, 0x1f83d9ab,
    0x5be0cd19]

/-- The words of a block with those made of them, latest first. -/
def sha256Words (block : List UInt32) : List UInt32 :=
  (List.range 48).foldl (fun words _ =>
    let at' (i : Nat) : UInt32 := words.getD i 0
    let (x, y) := (at' 14, at' 1)
    let low := turnRight x 7 ^^^ turnRight x 18 ^^^ (x >>> 3)
    let high := turnRight y 17 ^^^ turnRight y 19 ^^^ (y >>> 10)
    (at' 15 + low + at' 6 + high) :: words) block.reverse

/-- The words that are left of a text when they start as given, 64 steps for each block. -/
def sha256From (start : List UInt32) (text : List Char) : List UInt32 :=
  let step (words : List UInt32) (next : UInt32 × UInt32) : List UInt32 :=
    match words with
    | [a, b, c, d, e, f, g, h] =>
      let high := turnRight e 6 ^^^ turnRight e 11 ^^^ turnRight e 25
      let first := h + high + ((e &&& f) ^^^ ((~~~e) &&& g)) + next.1 + next.2
      let low := turnRight a 2 ^^^ turnRight a 13 ^^^ turnRight a 22
      let second := low + ((a &&& b) ^^^ (a &&& c) ^^^ (b &&& c))
      [first + second, a, b, c, d + first, e, f, g]
    | words => words
  (blocksOf false text).foldl (fun words block =>
    List.zipWith (· + ·) words ((cubeRoots.zip (sha256Words block).reverse).foldl step words)) start

/-- As many words are left as there were at the start. -/
theorem length_sha256From (start : List UInt32) (text : List Char) :
    (sha256From start text).length = start.length := by
  rw [sha256From, length_foldl_zipWith]
  intro words block hwords
  rw [length_foldl_of_step ?_, hwords]
  intro words next
  dsimp only
  split <;> rfl

/-- The digest of a text in 32 bytes. -/
def sha256 (text : List Char) : List Char := (sha256From squareRoots text).flatMap bytesOf

/-- A digest takes 32 bytes, whatever the text. -/
theorem length_sha256 (text : List Char) : (sha256 text).length = 32 := by
  rw [sha256, length_flatMap_bytesOf, length_sha256From]
  rfl

/-- The second 32 bits behind the point of the square roots of the ninth to the sixteenth prime. -/
def laterSquareRoots : List UInt32 :=
  [0xc1059ed8, 0x367cd507, 0x3070dd17, 0xf70e5939, 0xffc00b31, 0x68581511, 0x64f98fa7,
    0xbefa4fa4]

/-- The digest of a text in 28 bytes. -/
def sha224 (text : List Char) : List Char :=
  ((sha256From laterSquareRoots text).take 7).flatMap bytesOf

/-- A digest takes 28 bytes, whatever the text. -/
theorem length_sha224 (text : List Char) : (sha224 text).length = 28 := by
  rw [sha224, length_flatMap_bytesOf, List.length_take, length_sha256From]
  rfl

/-! ### Remainders -/

/-- A remainder with one more byte behind it. -/
def crcByte (remainder : UInt32) (c : Char) : UInt32 :=
  (List.range 8).foldl (fun word _ =>
    if word &&& 0x80000000 = 0 then word <<< 1 else (word <<< 1) ^^^ 0x04c11db7)
    (remainder ^^^ (UInt32.ofNat c.toNat <<< 24))

/-- The bytes of a length, the lowest first, without zeros at the end. -/
def lengthBytes : (fuel : Nat) → Nat → List Char
  | 0, _ => []
  | fuel + 1, n => if n = 0 then [] else Char.ofNat (n % 256) :: lengthBytes fuel (n / 256)

/-- The remainder of a text with its length behind it. -/
def crc (text : List Char) : UInt32 :=
  ~~~((text ++ lengthBytes 8 text.length).foldl crcByte 0)

/-! ### The tools -/

/-- Shows a digest of each file in front of its name. -/
def digestTool (tool : String) (digest : List Char → List Char) (task : Task) : Report :=
  let table : OptionTable := ⟨"btz", "", [("binary", 'b'), ("text", 't'), ("zero", 'z')]⟩
  task.withOptions tool 1 table fun options paths =>
    let (found, complaint) := task.sources paths (Task.missing tool)
    let mark := if hasOption options 'b' then " *" else "  "
    let rows := found.map fun (path, text) => hexText (digest text) ++ (mark ++ path).toList
    ⟨joinLines rows, complaint, if complaint.isEmpty then 0 else 1,
      if Task.readsInput paths then [] else task.input⟩

/-- Shows the remainder and the length of each file. -/
def cksum (task : Task) : Report :=
  let (found, complaint) := task.sources task.words (Task.missing "cksum")
  let rows := found.map fun (path, text) =>
    let name := if task.words.isEmpty then "" else " " ++ path
    (s!"{crc text} {text.length}" ++ name).toList
  ⟨joinLines rows, complaint, if complaint.isEmpty then 0 else 1,
    if Task.readsInput task.words then [] else task.input⟩

/-- Shows a sum of the bytes of each file, which turns after each of them, and the number of blocks
of 1024 bytes; `-s` plainly adds, and has blocks of 512. -/
def sum (task : Task) : Report :=
  let table : OptionTable := ⟨"rs", "", [("sysv", 's')]⟩
  task.withOptions "sum" 1 table fun options paths =>
    let (found, complaint) := task.sources paths (Task.missing "sum")
    let plain := hasOption options 's'
    let rows := found.map fun (path, text) =>
      let blocks (size : Nat) : Nat := (text.length + size - 1) / size
      let turning := text.foldl (fun n c =>
        ((n / 2) + (n % 2) * 0x8000 + c.toNat) % 0x10000) 0
      let total := text.foldl (fun n c => n + c.toNat) 0
      let folded := total % 0x10000 + total % 0x100000000 / 0x10000
      let folded := folded % 0x10000 + folded / 0x10000
      let name := if paths.isEmpty then "" else " " ++ path
      let digits := (toString turning).toList
      if plain then (s!"{folded} {blocks 512}" ++ name).toList
      else List.replicate (5 - digits.length) '0' ++ digits ++ ' ' :: padNumber 5 (blocks 1024) ++
        (if paths.length ≤ 1 then [] else name.toList)
    ⟨joinLines rows, complaint, if complaint.isEmpty then 0 else 1,
      if Task.readsInput paths then [] else task.input⟩

end Shell

end TreeOutline
