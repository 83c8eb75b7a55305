/-!
# A stream of random numbers

The ChaCha cipher with twelve rounds as a source of random numbers. A number of 64 bits is spread to a
key, block number `n` of the stream is worked out from the key and `n`, and two words of a block make
a number, the lower half first.
-/

namespace Microworlds.Random

abbrev Words := Vector UInt32 16

/-- A word turned to the left. -/
def rotateLeft (x : UInt32) (bits : UInt32) : UInt32 :=
  (x <<< bits) ||| (x >>> (32 - bits))

/-- Mixes four of the words. -/
def quarterRound (w : Words) (a b c d : Fin 16) : Words :=
  let w := w.set a (w[a] + w[b])
  let w := w.set d (rotateLeft (w[d] ^^^ w[a]) 16)
  let w := w.set c (w[c] + w[d])
  let w := w.set b (rotateLeft (w[b] ^^^ w[c]) 12)
  let w := w.set a (w[a] + w[b])
  let w := w.set d (rotateLeft (w[d] ^^^ w[a]) 8)
  let w := w.set c (w[c] + w[d])
  w.set b (rotateLeft (w[b] ^^^ w[c]) 7)

/-- Mixes the columns, then the diagonals. -/
def doubleRound (w : Words) : Words :=
  let w := quarterRound w 0 4 8 12
  let w := quarterRound w 1 5 9 13
  let w := quarterRound w 2 6 10 14
  let w := quarterRound w 3 7 11 15
  let w := quarterRound w 0 5 10 15
  let w := quarterRound w 1 6 11 12
  let w := quarterRound w 2 7 8 13
  quarterRound w 3 4 9 14

def block (key : Vector UInt32 8) (number : UInt64) : Words :=
  let start : Words :=
    #v[0x61707865, 0x3320646e, 0x79622d32, 0x6b206574,
      key[0], key[1], key[2], key[3], key[4], key[5], key[6], key[7],
      number.toUInt32, (number >>> 32).toUInt32, 0, 0]
  let mixed := Nat.repeat doubleRound 6 start
  start.zipWith (· + ·) mixed

/-- The next state of the generator that spreads a number to a key. -/
def nextState (state : UInt64) : UInt64 :=
  state * 6364136223846793005 + 11634580027462260723

/-- The word of a key that a state of that generator gives. -/
def keyWord (state : UInt64) : UInt32 :=
  let mixed := (((state >>> 18) ^^^ state) >>> 27).toUInt32
  let turn := (state >>> 59).toUInt32
  (mixed >>> turn) ||| (mixed <<< (32 - turn))

def keyOf (seed : UInt64) : Vector UInt32 8 :=
  Vector.ofFn fun i => keyWord (Nat.repeat nextState (i.val + 1) seed)

/-- Number `n` of the stream. -/
def number (key : Vector UInt32 8) (n : Nat) : UInt64 :=
  let words := block key (UInt64.ofNat (n / 8))
  let low := words[2 * (n % 8)]
  let high := words[2 * (n % 8) + 1]
  (high.toUInt64 <<< 32) ||| low.toUInt64

/-- The first choice among three that the stream makes from number `n` on. The upper half of three
times a number is the choice, unless the lower half is so large that the choices would not be equally
likely. After the given number of such refusals the first choice is taken. -/
def chooseFrom (key : Vector UInt32 8) : Nat → Nat → Fin 3
  | 0, _ => 0
  | tries + 1, n =>
    let product := 3 * (number key n).toNat
    if product % UInt64.size < 3 * (UInt64.size / 4) then Fin.ofNat 3 (product / UInt64.size)
    else chooseFrom key tries (n + 1)

/-- A choice among three that depends on the seed alone. -/
def chooseOfThree (seed : UInt64) : Fin 3 :=
  chooseFrom (keyOf seed) 512 0

end Microworlds.Random
