import Diagnostics.Text.Octets

/-!
# Digests

A digest of a text is a number of fixed length that stands for the text. The text is filled up to whole blocks, at whose
end its length stands, and the blocks are mixed into a state of some words, one after the other. The constants come from
roots of prime numbers and from sines.
-/

namespace Diagnostics.Sandbox

/-! ## Words -/

/-- The lowest bits of a number. -/
def lowBits (bits n : Nat) : Nat := n % Nat.pow 2 bits

/-- A word turned to the left. -/
def turnLeft (bits count n : Nat) : Nat := lowBits bits (n * Nat.pow 2 count) + n / Nat.pow 2 (bits - count)

/-- A word turned to the right. -/
def turnRight (bits count n : Nat) : Nat := turnLeft bits (bits - count) n

/-- A word with all its bits changed. -/
def flipped (bits n : Nat) : Nat := Nat.pow 2 bits - 1 - n

/-- Octets as a number, the highest first. -/
def highNumber (cs : Octets) : Nat := cs.foldl (fun n c => n * 256 + c.toNat) 0

/-- A number as so many octets, the highest first. -/
def highOctets : Nat → Nat → Octets → Octets
  | 0, _, seen => seen
  | count + 1, n, seen => highOctets count (n / 256) (Char.ofNat (n % 256) :: seen)

/-! ## Constants -/

/-- The prime numbers below a bound. -/
def primesBelow (bound : Nat) : List Nat :=
  ((List.range bound).drop 2).filter fun n => ((List.range n).drop 2).all fun d => n % d ≠ 0

/-- The greatest number from a least one on whose power is not above a number; `bits` more bits are looked at. -/
def rootFrom (power n : Nat) : Nat → Nat → Nat
  | 0, least => least
  | bits + 1, least =>
    let next := least + Nat.pow 2 bits
    rootFrom power n bits (if Nat.pow next power ≤ n then next else least)

/-- The first bits after the point of a root of a number. -/
def rootBits (power bits n : Nat) : Nat := lowBits bits (rootFrom power (n * Nat.pow 2 (power * bits)) (bits + 8) 0)

/-- The first bits after the point of the sine of a number, without its sign. -/
def sineBits (n : Nat) : Nat := (((Float.ofNat n).sin.abs * 4294967296.0).floor).toUInt64.toNat

/-! ## Mixing -/

/-- A way to make digests: the octets of a block, the octets in which the length of a text stands, whether high octets
come first, the bits of a word, the first state, how a block is mixed into the state, and the octets of a digest. -/
structure Digest where
  name : String
  block : Nat
  lengthSize : Nat
  highFirst : Bool
  bits : Nat
  start : List Nat
  mix : List Nat → List Nat → List Nat
  size : Nat

namespace Digest

/-- The words of octets. -/
def wordsOf (d : Digest) : Nat → Octets → List Nat
  | 0, _ => []
  | _, [] => []
  | fuel + 1, cs =>
    let word := cs.take (d.bits / 8)
    highNumber (if d.highFirst then word else word.reverse) :: wordsOf d fuel (cs.drop (d.bits / 8))

/-- A text filled up to whole blocks. -/
def filled (d : Digest) (cs : Octets) : Octets :=
  let size := cs.length
  let zeros := (d.block - (size + 1 + d.lengthSize) % d.block) % d.block
  let length := highOctets d.lengthSize (8 * size) []
  cs ++ '\x80' :: List.replicate zeros '\x00' ++ (if d.highFirst then length else length.reverse)

/-- Mix blocks into a state. -/
def absorb (d : Digest) : Nat → Octets → List Nat → List Nat
  | 0, _, state => state
  | _, [], state => state
  | fuel + 1, cs, state =>
    let block := cs.take d.block
    absorb d fuel (cs.drop d.block) (d.mix state (d.wordsOf (block.length + 1) block))

/-- The digest of a text. -/
def apply (d : Digest) (cs : Octets) : Octets :=
  let text := d.filled cs
  let state := d.absorb (text.length + 1) text d.start
  let octets := state.flatMap fun w =>
    let word := highOctets (d.bits / 8) w []
    if d.highFirst then word else word.reverse
  octets.take d.size

/-- Add two states, word for word. -/
def addStates (bits : Nat) (a b : List Nat) : List Nat := (a.zip b).map fun (x, y) => lowBits bits (x + y)

/-! ## Kinds -/

/-- The first state of several kinds. -/
def commonStart : List Nat := [0x67452301, 0xefcdab89, 0x98badcfe, 0x10325476]

/-- How far words are turned in each quarter. -/
def md5Turns : List (List Nat) := [[7, 12, 17, 22], [5, 9, 14, 20], [4, 11, 16, 23], [6, 10, 15, 21]]

/-- Mix a block in four quarters. -/
def mixMd5 (constants : Array Nat) (state words : List Nat) : List Nat :=
  let block := words.toArray
  let step (s : List Nat) (i : Nat) : List Nat :=
    match s with
    | [a, b, c, d] =>
      let (f, g) :=
        if i < 16 then ((b &&& c) ||| (flipped 32 b &&& d), i)
        else if i < 32 then ((d &&& b) ||| (flipped 32 d &&& c), (5 * i + 1) % 16)
        else if i < 48 then (b ^^^ c ^^^ d, (3 * i + 5) % 16)
        else (c ^^^ (b ||| flipped 32 d), 7 * i % 16)
      let turn := ((md5Turns.getD (i / 16) []).getD (i % 4) 0)
      let sum := lowBits 32 (a + f + constants.getD i 0 + block.getD g 0)
      [d, lowBits 32 (b + turnLeft 32 turn sum), b, c]
    | s => s
  addStates 32 state ((List.range 64).foldl step state)

/-- The digest of 128 bits with four quarters. -/
def md5 : Digest :=
  { name := "MD5", block := 64, lengthSize := 8, highFirst := false, bits := 32, start := commonStart
    mix := mixMd5 ((List.range 64).map fun i => sineBits (i + 1)).toArray, size := 16 }

/-- Words that follow from those of a block, the last one first. -/
def lengthened (next : List Nat → Nat) (words : List Nat) (count : Nat) : List Nat :=
  (List.range count).foldl (fun seen _ => next seen :: seen) words.reverse

/-- Mix a block in eighty steps. -/
def mixSha1 (state words : List Nat) : List Nat :=
  let next (seen : List Nat) : Nat :=
    turnLeft 32 1 (seen.getD 2 0 ^^^ seen.getD 7 0 ^^^ seen.getD 13 0 ^^^ seen.getD 15 0)
  let all := (lengthened next words 64).reverse
  let step (s : List Nat) (iw : Nat × Nat) : List Nat :=
    match s with
    | [a, b, c, d, e] =>
      let (i, w) := iw
      let (f, k) :=
        if i < 20 then ((b &&& c) ||| (flipped 32 b &&& d), 0x5a827999)
        else if i < 40 then (b ^^^ c ^^^ d, 0x6ed9eba1)
        else if i < 60 then ((b &&& c) ||| (b &&& d) ||| (c &&& d), 0x8f1bbcdc)
        else (b ^^^ c ^^^ d, 0xca62c1d6)
      [lowBits 32 (turnLeft 32 5 a + f + e + k + w), a, turnLeft 32 30 b, c, d]
    | s => s
  addStates 32 state (((List.range 80).zip all).foldl step state)

/-- The digest of 160 bits. -/
def sha1 : Digest :=
  { name := "SHA1", block := 64, lengthSize := 8, highFirst := true, bits := 32, start := commonStart ++ [0xc3d2e1f0]
    mix := mixSha1, size := 20 }

/-- How far words are turned and moved while a block is mixed. -/
structure Turns where
  big0 : Nat × Nat × Nat
  big1 : Nat × Nat × Nat
  small0 : Nat × Nat × Nat
  small1 : Nat × Nat × Nat

/-- Turns of words of 32 bits. -/
def turns32 : Turns := ⟨(2, 13, 22), (6, 11, 25), (7, 18, 3), (17, 19, 10)⟩

/-- Turns of words of 64 bits. -/
def turns64 : Turns := ⟨(28, 34, 39), (14, 18, 41), (1, 8, 7), (19, 61, 6)⟩

/-- Mix a block in as many steps as there are constants. -/
def mixSha2 (bits : Nat) (t : Turns) (constants : List Nat) (state words : List Nat) : List Nat :=
  let big (n : Nat × Nat × Nat) (w : Nat) : Nat := turnRight bits n.1 w ^^^ turnRight bits n.2.1 w ^^^ turnRight bits n.2.2 w
  let small (n : Nat × Nat × Nat) (w : Nat) : Nat :=
    turnRight bits n.1 w ^^^ turnRight bits n.2.1 w ^^^ w / Nat.pow 2 n.2.2
  let next (seen : List Nat) : Nat :=
    lowBits bits (small t.small1 (seen.getD 1 0) + seen.getD 6 0 + small t.small0 (seen.getD 14 0) + seen.getD 15 0)
  let all := (lengthened next words (constants.length - 16)).reverse
  let step (s : List Nat) (kw : Nat × Nat) : List Nat :=
    match s with
    | [a, b, c, d, e, f, g, h] =>
      let one := h + big t.big1 e + ((e &&& f) ^^^ (flipped bits e &&& g)) + kw.1 + kw.2
      let two := big t.big0 a + ((a &&& b) ^^^ (a &&& c) ^^^ (b &&& c))
      [lowBits bits (one + two), a, b, c, lowBits bits (d + one), e, f, g]
    | s => s
  addStates bits state ((constants.zip all).foldl step state)

/-- Constants from the cube roots of the first prime numbers. -/
def cubeRoots (bits bound : Nat) : List Nat := (primesBelow bound).map (rootBits 3 bits)

/-- Constants from the square roots of eight prime numbers. -/
def squareRoots (bits skipped : Nat) : List Nat := (((primesBelow 60).drop skipped).take 8).map (rootBits 2 bits)

/-- A digest with words of 32 bits. -/
def short (name : String) (start : List Nat) (size : Nat) : Digest :=
  { name, block := 64, lengthSize := 8, highFirst := true, bits := 32, start, mix := mixSha2 32 turns32 (cubeRoots 32 312)
    size }

/-- A digest with words of 64 bits. -/
def long (name : String) (start : List Nat) (size : Nat) : Digest :=
  { name, block := 128, lengthSize := 16, highFirst := true, bits := 64, start, mix := mixSha2 64 turns64 (cubeRoots 64 410)
    size }

/-- The digest of 256 bits. -/
def sha256 : Digest := short "SHA256" (squareRoots 32 0) 32

/-- The digest of 224 bits. -/
def sha224 : Digest := short "SHA224" ((squareRoots 64 8).map (lowBits 32)) 28

/-- The digest of 512 bits. -/
def sha512 : Digest := long "SHA512" (squareRoots 64 0) 64

/-- The digest of 384 bits. -/
def sha384 : Digest := long "SHA384" (squareRoots 64 8) 48

end Digest

end Diagnostics.Sandbox
