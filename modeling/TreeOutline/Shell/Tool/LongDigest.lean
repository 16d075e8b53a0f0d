import TreeOutline.Shell.Tool.Digest

namespace TreeOutline

/-!
# Digests of long words

* `Shell.rootBits` — the bits behind the point of a root.
* `Shell.sha384`, `Shell.sha512` — digests of a text by blocks of 128 bytes; how long they are does
  not depend on the text.
* `Shell.blake2b` — another one.
-/

namespace Shell

/-! ### Words and blocks -/

/-- A long word turned to the right. -/
def turnRight64 (word count : UInt64) : UInt64 := (word >>> count) ||| (word <<< (64 - count))

/-- The long word of up to eight bytes, the first one the highest. -/
def wordOf64 (bytes : List Char) : UInt64 :=
  bytes.foldl (fun word c => word * 256 + UInt64.ofNat c.toNat) 0

/-- The bytes of a long word, the highest first. -/
def bytesOf64 (word : UInt64) : List Char :=
  ([56, 48, 40, 32, 24, 16, 8, 0] : List UInt64).map fun n =>
    Char.ofNat ((word >>> n).toNat % 256)

@[simp] theorem length_bytesOf64 (word : UInt64) : (bytesOf64 word).length = 8 := rfl

@[simp] theorem length_flatMap_bytesOf64 (words : List UInt64) :
    (words.flatMap bytesOf64).length = 8 * words.length := by
  simp [List.length_flatMap, List.map_const', Nat.mul_comm]

/-- The first primes. -/
def primes80 : List Nat :=
  (List.range 410).filter fun n => 2 ≤ n && (List.range n).all fun d => d < 2 || n % d ≠ 0

/-- There are as many primes as both tables of roots need. -/
theorem le_length_primes80 : 16 ≤ primes80.length := by
  -- the first sixteen of them are below 54
  rw [primes80, show 410 = 54 + 356 from rfl, List.range_add, List.filter_append,
    List.length_append]
  exact Nat.le_add_right_of_le (by decide)

/-- The first 64 bits behind the point of a root, found bit by bit. -/
def rootBits (power n : Nat) : UInt64 :=
  let scaled := n * Nat.pow 2 (64 * power)
  UInt64.ofNat (((List.range 72).reverse.foldl (fun root i =>
    let next := root + Nat.pow 2 i
    if Nat.pow next power ≤ scaled then next else root) 0) % Nat.pow 2 64)

/-- The bits of the cube roots of the first 80 primes. -/
def cubeRoots64 : List UInt64 := primes80.map (rootBits 3)

/-- The bits of the square roots of the first eight primes. -/
def squareRoots64 : List UInt64 := (primes80.take 8).map (rootBits 2)

/-- The bits of the square roots of the next eight primes. -/
def laterSquareRoots64 : List UInt64 := ((primes80.drop 8).take 8).map (rootBits 2)

@[simp] theorem length_squareRoots64 : squareRoots64.length = 8 := by
  have h := le_length_primes80
  simp [squareRoots64]; omega

@[simp] theorem length_laterSquareRoots64 : laterSquareRoots64.length = 8 := by
  have h := le_length_primes80
  simp [laterSquareRoots64]; omega

/-! ### Rounds -/

/-- The words of a block with those made of them, latest first. -/
def sha512Words (block : List UInt64) : List UInt64 :=
  (List.range 64).foldl (fun words _ =>
    let at' (i : Nat) : UInt64 := words.getD i 0
    let (x, y) := (at' 14, at' 1)
    let low := turnRight64 x 1 ^^^ turnRight64 x 8 ^^^ (x >>> 7)
    let high := turnRight64 y 19 ^^^ turnRight64 y 61 ^^^ (y >>> 6)
    (at' 15 + low + at' 6 + high) :: words) block.reverse

/-- The words that are left of a text when they start as given, 80 steps for each block. -/
def sha512From (start : List UInt64) (text : List Char) : List UInt64 :=
  let step (words : List UInt64) (next : UInt64 × UInt64) : List UInt64 :=
    match words with
    | [a, b, c, d, e, f, g, h] =>
      let high := turnRight64 e 14 ^^^ turnRight64 e 18 ^^^ turnRight64 e 41
      let first := h + high + ((e &&& f) ^^^ ((~~~e) &&& g)) + next.1 + next.2
      let low := turnRight64 a 28 ^^^ turnRight64 a 34 ^^^ turnRight64 a 39
      let second := low + ((a &&& b) ^^^ (a &&& c) ^^^ (b &&& c))
      [first + second, a, b, c, d + first, e, f, g]
    | words => words
  let zeros := (239 - text.length % 128) % 128
  let bytes := text ++ '\x80' :: List.replicate (zeros + 8) '\x00' ++
    bytesOf64 (UInt64.ofNat (8 * text.length))
  let blocks := (piecesOf 128 (bytes.length + 1) bytes).map fun block =>
    (piecesOf 8 17 block).map wordOf64
  blocks.foldl (fun words block =>
    List.zipWith (· + ·) words ((cubeRoots64.zip (sha512Words block).reverse).foldl step words))
    start

/-- As many words are left as there were at the start. -/
theorem length_sha512From (start : List UInt64) (text : List Char) :
    (sha512From start text).length = start.length := by
  rw [sha512From]
  dsimp only
  rw [length_foldl_zipWith]
  intro words block hwords
  rw [length_foldl_of_step ?_, hwords]
  intro words next
  split <;> rfl

/-- The digest of a text in 64 bytes. -/
def sha512 (text : List Char) : List Char := (sha512From squareRoots64 text).flatMap bytesOf64

/-- A digest takes 64 bytes, whatever the text. -/
theorem length_sha512 (text : List Char) : (sha512 text).length = 64 := by
  rw [sha512, length_flatMap_bytesOf64, length_sha512From, length_squareRoots64]

/-- The digest of a text in 48 bytes. -/
def sha384 (text : List Char) : List Char :=
  ((sha512From laterSquareRoots64 text).take 6).flatMap bytesOf64

/-- A digest takes 48 bytes, whatever the text. -/
theorem length_sha384 (text : List Char) : (sha384 text).length = 48 := by
  rw [sha384, length_flatMap_bytesOf64, List.length_take, length_sha512From,
    length_laterSquareRoots64]
  rfl

/-! ### Another digest -/

/-- The orders in which the words of a block are mixed in. -/
def mixingOrders : List (List Nat) :=
  [[0, 1, 2, 3, 4, 5, 6, 7, 8, 9, 10, 11, 12, 13, 14, 15],
    [14, 10, 4, 8, 9, 15, 13, 6, 1, 12, 0, 2, 11, 7, 5, 3],
    [11, 8, 12, 0, 5, 2, 15, 13, 10, 14, 3, 6, 7, 1, 9, 4],
    [7, 9, 3, 1, 13, 12, 11, 14, 2, 6, 5, 10, 4, 0, 15, 8],
    [9, 0, 5, 7, 2, 4, 10, 15, 14, 1, 11, 12, 6, 8, 3, 13],
    [2, 12, 6, 10, 0, 11, 8, 3, 4, 13, 7, 5, 15, 14, 1, 9],
    [12, 5, 1, 15, 14, 13, 4, 10, 0, 7, 6, 3, 9, 2, 8, 11],
    [13, 11, 7, 14, 12, 1, 3, 9, 5, 0, 15, 4, 8, 6, 2, 10],
    [6, 15, 14, 9, 11, 3, 0, 8, 12, 2, 13, 7, 1, 4, 10, 5],
    [10, 2, 8, 4, 7, 6, 1, 5, 15, 11, 9, 14, 3, 12, 13, 0]]

/-- The places of words that are mixed with each other in a round. -/
def mixingPlaces : List (Nat × Nat × Nat × Nat) :=
  [(0, 4, 8, 12), (1, 5, 9, 13), (2, 6, 10, 14), (3, 7, 11, 15),
    (0, 5, 10, 15), (1, 6, 11, 12), (2, 7, 8, 13), (3, 4, 9, 14)]

/-- Mixes two words of a block into four of the words. -/
def mixWords (words : List UInt64) (places : Nat × Nat × Nat × Nat) (x y : UInt64) : List UInt64 :=
  let (i, j, k, l) := places
  let at' (n : Nat) : UInt64 := words.getD n 0
  let half (x : UInt64) (first second : UInt64) (four : UInt64 × UInt64 × UInt64 × UInt64) :
      UInt64 × UInt64 × UInt64 × UInt64 :=
    let (a, b, c, d) := four
    let a := a + b + x
    let d := turnRight64 (d ^^^ a) first
    let c := c + d
    (a, turnRight64 (b ^^^ c) second, c, d)
  let (a, b, c, d) := half y 16 63 (half x 32 24 (at' i, at' j, at' k, at' l))
  (((words.set i a).set j b).set k c).set l d

/-- Mixes a block into the words, given how many bytes there are up to its end. -/
def blakeBlock (state : List UInt64) (block : List UInt64) (count : Nat) (last : Bool) :
    List UInt64 :=
  let front := squareRoots64.zipIdx.map fun (word, i) =>
    if i = 4 then word ^^^ UInt64.ofNat count
    else if i = 6 ∧ last then ~~~word
    else word
  let words := (List.range 12).foldl (fun words round =>
    let order := mixingOrders.getD (round % 10) []
    mixingPlaces.zipIdx.foldl (fun words (places, i) =>
      let at' (n : Nat) : UInt64 := block.getD (order.getD n 0) 0
      mixWords words places (at' (2 * i)) (at' (2 * i + 1))) words) (state ++ front)
  state.zipIdx.map fun (word, i) => word ^^^ words.getD i 0 ^^^ words.getD (i + 8) 0

/-- Mixing in a block keeps the number of words. -/
@[simp] theorem length_blakeBlock (state block : List UInt64) (count : Nat) (last : Bool) :
    (blakeBlock state block count last).length = state.length := by
  simp [blakeBlock]

/-- The digest of a text in 64 bytes. -/
def blake2b (text : List Char) : List Char :=
  let pieces := piecesOf 128 (text.length + 1) text
  let pieces := if pieces.isEmpty then [[]] else pieces
  let start := squareRoots64.zipIdx.map fun (word, i) =>
    if i = 0 then word ^^^ 0x01010040 else word
  let words := pieces.zipIdx.foldl (fun state (piece, i) =>
    let bytes := piece ++ List.replicate (128 - piece.length) '\x00'
    let block := (piecesOf 8 17 bytes).map fun bytes => wordOf64 bytes.reverse
    let last : Bool := i + 1 = pieces.length
    blakeBlock state block (if last then text.length else 128 * (i + 1)) last) start
  words.flatMap fun word => (bytesOf64 word).reverse

/-- A digest takes 64 bytes, whatever the text. -/
theorem length_blake2b (text : List Char) : (blake2b text).length = 64 := by
  have hreversed (words : List UInt64) :
      (words.flatMap fun word => (bytesOf64 word).reverse).length = 8 * words.length := by
    simp [List.length_flatMap, List.map_const', Nat.mul_comm]
  rw [blake2b]
  dsimp only
  rw [hreversed, length_foldl_of_step]
  · simp
  · rintro state ⟨piece, i⟩
    exact length_blakeBlock _ _ _ _

end Shell

end TreeOutline
