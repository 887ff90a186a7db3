/-!
# A stream of random words

The ChaCha stream with twelve rounds. A block is sixteen words made from
four constants, a key of eight words, a block number of two words and two
words of zero; the rounds mix columns and diagonals by turns, and the
mixed words are added to the words they came from. The blocks in order of
their numbers, each from its first word to its last, are the stream.

A seed of one word is stretched into a key by a congruential generator
with a permuted output. Numbers below a bound are drawn from sixty-four
random bits by multiplying with the bound and keeping the upper half; a
second draw settles the carry where the lower half leaves it open.
-/

namespace TableProfile.Random

/-- The sixteen words of a block. -/
abbrev Words := Vector UInt32 16

/-- A word turned left by `n` bits. -/
def rotateLeft (x : UInt32) (n : UInt32) : UInt32 :=
  (x <<< n) ||| (x >>> (32 - n))

/-- **The quarter round** on four words of a block. -/
def quarterRound (w : Words) (a b c d : Fin 16) : Words :=
  let wa := w[a] + w[b]
  let wd := rotateLeft (w[d] ^^^ wa) 16
  let wc := w[c] + wd
  let wb := rotateLeft (w[b] ^^^ wc) 12
  let wa := wa + wb
  let wd := rotateLeft (wd ^^^ wa) 8
  let wc := wc + wd
  let wb := rotateLeft (wb ^^^ wc) 7
  (((w.set a wa).set b wb).set c wc).set d wd

/-- A round on the columns and a round on the diagonals. -/
def doubleRound (w : Words) : Words :=
  let w := quarterRound w 0 4 8 12
  let w := quarterRound w 1 5 9 13
  let w := quarterRound w 2 6 10 14
  let w := quarterRound w 3 7 11 15
  let w := quarterRound w 0 5 10 15
  let w := quarterRound w 1 6 11 12
  let w := quarterRound w 2 7 8 13
  quarterRound w 3 4 9 14

/-- The words a block is made from. -/
def blockInput (key : Vector UInt32 8) (number : UInt64) : Words :=
  #v[0x61707865, 0x3320646e, 0x79622d32, 0x6b206574,
    key[0], key[1], key[2], key[3], key[4], key[5], key[6], key[7],
    number.toUInt32, (number >>> 32).toUInt32, 0, 0]

/-- **A block of the stream**: twelve rounds, and the sum with the input. -/
def block (key : Vector UInt32 8) (number : UInt64) : Words :=
  let input := blockInput key number
  (input.zipWith (· + ·) ((List.range 6).foldl (fun w _ => doubleRound w) input))

/-- The congruential generator that stretches a seed. -/
def stretch (state : UInt64) : UInt64 :=
  state * 6364136223846793005 + 11634580027462260723

/-- The word that a state of that generator gives out. -/
def permuted (state : UInt64) : UInt32 :=
  let x := (((state >>> 18) ^^^ state) >>> 27).toUInt32
  let turn := (state >>> 59).toUInt32
  (x >>> turn) ||| (x <<< ((32 - turn) % 32))

/-- The key of a seed. -/
def keyOfSeed (seed : UInt64) : Vector UInt32 8 :=
  let s1 := stretch seed
  let s2 := stretch s1
  let s3 := stretch s2
  let s4 := stretch s3
  let s5 := stretch s4
  let s6 := stretch s5
  let s7 := stretch s6
  let s8 := stretch s7
  #v[permuted s1, permuted s2, permuted s3, permuted s4,
    permuted s5, permuted s6, permuted s7, permuted s8]

/-- **A position in the stream**: the words of the current block that are
still to come, and the number of the next block. -/
structure Generator where
  /-- The key of the stream. -/
  key : Vector UInt32 8
  /-- The words of the current block that are not used yet. -/
  pending : List UInt32 := []
  /-- The number of the next block. -/
  nextBlock : UInt64 := 0

namespace Generator

/-- The stream of a seed, from its beginning. -/
def ofSeed (seed : UInt64) : Generator :=
  { key := keyOfSeed seed }

/-- Sixty-four random bits: two words, the lower first. -/
def next64 (g : Generator) : UInt64 × Generator :=
  match g.pending with
  | low :: high :: rest => (join low high, { g with pending := rest })
  | _ =>
    match (block g.key g.nextBlock).toList with
    | low :: high :: rest =>
      (join low high, { g with pending := rest, nextBlock := g.nextBlock + 1 })
    | _ => (0, g)
where
  /-- Two words as one. -/
  join (low high : UInt32) : UInt64 :=
    low.toUInt64 ||| (high.toUInt64 <<< 32)

/-- **A number below `n`**, for `n` up to sixty-four bits. -/
def below (g : Generator) (n : Nat) : Nat × Generator :=
  let (first, g) := g.next64
  let product := first.toNat * n
  let high := product / UInt64.size
  let low := product % UInt64.size
  if UInt64.size - n < low then
    let (second, g) := g.next64
    (if UInt64.size ≤ low + second.toNat * n / UInt64.size then high + 1 else high, g)
  else (high, g)

end Generator

end TableProfile.Random
