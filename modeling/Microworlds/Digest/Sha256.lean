/-!
# SHA-256

The digest of a list of bytes, and its text in hexadecimal digits.
-/

namespace Microworlds.Digest

def roundConstants : List UInt32 :=
  [0x428a2f98, 0x71374491, 0xb5c0fbcf, 0xe9b5dba5, 0x3956c25b, 0x59f111f1, 0x923f82a4, 0xab1c5ed5,
   0xd807aa98, 0x12835b01, 0x243185be, 0x550c7dc3, 0x72be5d74, 0x80deb1fe, 0x9bdc06a7, 0xc19bf174,
   0xe49b69c1, 0xefbe4786, 0x0fc19dc6, 0x240ca1cc, 0x2de92c6f, 0x4a7484aa, 0x5cb0a9dc, 0x76f988da,
   0x983e5152, 0xa831c66d, 0xb00327c8, 0xbf597fc7, 0xc6e00bf3, 0xd5a79147, 0x06ca6351, 0x14292967,
   0x27b70a85, 0x2e1b2138, 0x4d2c6dfc, 0x53380d13, 0x650a7354, 0x766a0abb, 0x81c2c92e, 0x92722c85,
   0xa2bfe8a1, 0xa81a664b, 0xc24b8b70, 0xc76c51a3, 0xd192e819, 0xd6990624, 0xf40e3585, 0x106aa070,
   0x19a4c116, 0x1e376c08, 0x2748774c, 0x34b0bcb5, 0x391c0cb3, 0x4ed8aa4a, 0x5b9cca4f, 0x682e6ff3,
   0x748f82ee, 0x78a5636f, 0x84c87814, 0x8cc70208, 0x90befffa, 0xa4506ceb, 0xbef9a3f7, 0xc67178f2]

/-- The eight words that blocks are worked into. -/
structure Words where
  a : UInt32
  b : UInt32
  c : UInt32
  d : UInt32
  e : UInt32
  f : UInt32
  g : UInt32
  h : UInt32

/-- The words before the first block. -/
def Words.initial : Words :=
  ⟨0x6a09e667, 0xbb67ae85, 0x3c6ef372, 0xa54ff53a, 0x510e527f, 0x9b05688c, 0x1f83d9ab, 0x5be0cd19⟩

def Words.add (x y : Words) : Words :=
  ⟨x.a + y.a, x.b + y.b, x.c + y.c, x.d + y.d, x.e + y.e, x.f + y.f, x.g + y.g, x.h + y.h⟩

/-- A word turned to the right. -/
def rotateRight (x bits : UInt32) : UInt32 :=
  (x >>> bits) ||| (x <<< (32 - bits))

/-- One round, with a word of the schedule and a constant. -/
def Words.round (x : Words) (word constant : UInt32) : Words :=
  let s1 := rotateRight x.e 6 ^^^ rotateRight x.e 11 ^^^ rotateRight x.e 25
  let choice := (x.e &&& x.f) ^^^ ((~~~ x.e) &&& x.g)
  let first := x.h + s1 + choice + constant + word
  let s0 := rotateRight x.a 2 ^^^ rotateRight x.a 13 ^^^ rotateRight x.a 22
  let majority := (x.a &&& x.b) ^^^ (x.a &&& x.c) ^^^ (x.b &&& x.c)
  ⟨first + (s0 + majority), x.a, x.b, x.c, x.d + first, x.e, x.f, x.g⟩

/-- The next word of a schedule, given the words before it with the last one first. -/
def nextWord (before : List UInt32) : UInt32 :=
  let back (i : Nat) : UInt32 := before.getD i 0
  let s0 := rotateRight (back 14) 7 ^^^ rotateRight (back 14) 18 ^^^ (back 14 >>> 3)
  let s1 := rotateRight (back 1) 17 ^^^ rotateRight (back 1) 19 ^^^ (back 1 >>> 10)
  back 15 + s0 + back 6 + s1

/-- The schedule of a block of sixteen words. -/
def schedule (block : List UInt32) : List UInt32 :=
  (Nat.repeat (fun before => nextWord before :: before) 48 block.reverse).reverse

def compress (words : Words) (block : List UInt32) : Words :=
  words.add (((schedule block).zip roundConstants).foldl (fun x step => x.round step.1 step.2) words)

def bigEndian (count n : Nat) : List UInt8 :=
  (List.range count).map fun i => UInt8.ofNat (n / Nat.pow 256 (count - 1 - i))

/-- The bytes with an end mark, filled up with zeros, and with their number of bits at the end. -/
def pad (bytes : List UInt8) : List UInt8 :=
  let zeros := (119 - bytes.length % 64) % 64
  bytes ++ [0x80] ++ List.replicate zeros 0 ++ bigEndian 8 (8 * bytes.length)

/-- Four bytes as a word, for as many bytes as there are. -/
def toWords : List UInt8 → List UInt32
  | a :: b :: c :: d :: more =>
    ((a.toUInt32 <<< 24) ||| (b.toUInt32 <<< 16) ||| (c.toUInt32 <<< 8) ||| d.toUInt32) ::
      toWords more
  | _ => []

/-- Works all blocks into the words. The number bounds the blocks. -/
def compressAll : Nat → Words → List UInt32 → Words
  | 0, words, _ => words
  | _ + 1, words, [] => words
  | bound + 1, words, data => compressAll bound (compress words (data.take 16)) (data.drop 16)

def sha256 (bytes : List UInt8) : List UInt8 :=
  let data := toWords (pad bytes)
  let w := compressAll data.length .initial data
  [w.a, w.b, w.c, w.d, w.e, w.f, w.g, w.h].flatMap fun word => bigEndian 4 word.toNat

/-- Bytes in lower-case hexadecimal digits, two for each. -/
def hex (bytes : List UInt8) : String :=
  String.ofList (bytes.flatMap fun b =>
    [Nat.digitChar (b.toNat / 16), Nat.digitChar (b.toNat % 16)])

/-- The digest of a text in hexadecimal digits. -/
def ofText (text : String) : String :=
  hex (sha256 text.toUTF8.toList)

end Microworlds.Digest
