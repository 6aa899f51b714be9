/-!
# Digests

SHA-256: a digest of 32 bytes for a message of any length.  The message is padded to whole blocks
of sixteen words of 32 bits.  Each block is extended to 64 words, one for each round of a mixing of
eight words, and the mixed words are added to the state before the block.
-/

namespace CollectionQuery.Digest

/-- Eight words. -/
structure State where
  a : UInt32
  b : UInt32
  c : UInt32
  d : UInt32
  e : UInt32
  f : UInt32
  g : UInt32
  h : UInt32

/-- The state before the first block: the first fractional bits of the square roots of the first
eight primes. -/
def State.initial : State :=
  ⟨0x6a09e667, 0xbb67ae85, 0x3c6ef372, 0xa54ff53a, 0x510e527f, 0x9b05688c, 0x1f83d9ab, 0x5be0cd19⟩

/-- The words of a state, in order. -/
def State.words (s : State) : List UInt32 := [s.a, s.b, s.c, s.d, s.e, s.f, s.g, s.h]

/-- Two states added word by word. -/
def State.add (s t : State) : State :=
  ⟨s.a + t.a, s.b + t.b, s.c + t.c, s.d + t.d, s.e + t.e, s.f + t.f, s.g + t.g, s.h + t.h⟩

/-- The constant of each round: the first fractional bits of the cube roots of the first 64
primes. -/
def roundConstants : List UInt32 := [
  0x428a2f98, 0x71374491, 0xb5c0fbcf, 0xe9b5dba5, 0x3956c25b, 0x59f111f1, 0x923f82a4, 0xab1c5ed5,
  0xd807aa98, 0x12835b01, 0x243185be, 0x550c7dc3, 0x72be5d74, 0x80deb1fe, 0x9bdc06a7, 0xc19bf174,
  0xe49b69c1, 0xefbe4786, 0x0fc19dc6, 0x240ca1cc, 0x2de92c6f, 0x4a7484aa, 0x5cb0a9dc, 0x76f988da,
  0x983e5152, 0xa831c66d, 0xb00327c8, 0xbf597fc7, 0xc6e00bf3, 0xd5a79147, 0x06ca6351, 0x14292967,
  0x27b70a85, 0x2e1b2138, 0x4d2c6dfc, 0x53380d13, 0x650a7354, 0x766a0abb, 0x81c2c92e, 0x92722c85,
  0xa2bfe8a1, 0xa81a664b, 0xc24b8b70, 0xc76c51a3, 0xd192e819, 0xd6990624, 0xf40e3585, 0x106aa070,
  0x19a4c116, 0x1e376c08, 0x2748774c, 0x34b0bcb5, 0x391c0cb3, 0x4ed8aa4a, 0x5b9cca4f, 0x682e6ff3,
  0x748f82ee, 0x78a5636f, 0x84c87814, 0x8cc70208, 0x90befffa, 0xa4506ceb, 0xbef9a3f7, 0xc67178f2]

/-- A word turned to the right by `n` bits, for `n` from 1 to 31. -/
def rotate (x n : UInt32) : UInt32 := (x >>> n) ||| (x <<< (32 - n))

/-- Three turns of a word, added without carry. -/
def turns (i j k x : UInt32) : UInt32 := rotate x i ^^^ rotate x j ^^^ rotate x k

/-- The word that follows the words of an extended block, the newest word first. -/
def nextWord (words : List UInt32) : UInt32 :=
  let early := words.getD 14 0
  let late := words.getD 1 0
  words.getD 15 0 + (rotate early 7 ^^^ rotate early 18 ^^^ early >>> 3) +
    words.getD 6 0 + (rotate late 17 ^^^ rotate late 19 ^^^ late >>> 10)

/-- Words with so many more in front, the newest word first. -/
def extend : Nat → List UInt32 → List UInt32
  | 0, words => words
  | n + 1, words => extend n (nextWord words :: words)

/-- One round of mixing, with the constant and the word of the round. -/
def mix (s : State) (constant word : UInt32) : State :=
  let choice := (s.e &&& s.f) ^^^ (~~~s.e &&& s.g)
  let majority := (s.a &&& s.b) ^^^ (s.a &&& s.c) ^^^ (s.b &&& s.c)
  let first := s.h + turns 6 11 25 s.e + choice + constant + word
  let second := turns 2 13 22 s.a + majority
  ⟨first + second, s.a, s.b, s.c, s.d + first, s.e, s.f, s.g⟩

/-- The state after a block of sixteen words. -/
def compress (s : State) (block : List UInt32) : State :=
  let words := (extend 48 block.reverse).reverse
  s.add ((roundConstants.zip words).foldl (fun t round => mix t round.1 round.2) s)

/-- The state after all blocks of a list of words. -/
def compressAll (s : State) (words : List UInt32) : State :=
  if words.length < 16 then s
  else compressAll (compress s (words.take 16)) (words.drop 16)
termination_by words.length
decreasing_by simp only [List.length_drop]; omega

/-- The lowest `count` bytes of a number, the highest of them first. -/
def bytesOf : (count : Nat) → Nat → List UInt8
  | 0, _ => []
  | count + 1, n => UInt8.ofNat (n / Nat.pow 256 count) :: bytesOf count n

/-- Bytes taken together by four, the highest first. -/
def wordsOf : List UInt8 → List UInt32
  | i :: j :: k :: l :: rest =>
    (i.toUInt32 <<< 24 ||| j.toUInt32 <<< 16 ||| k.toUInt32 <<< 8 ||| l.toUInt32) :: wordsOf rest
  | _ => []

/-- A message with a single bit, zeros up to the end of a block, and its length in bits behind. -/
def pad (message : List UInt8) : List UInt8 :=
  let size := message.length
  message ++ 0x80 :: List.replicate ((119 - size % 64) % 64) 0 ++ bytesOf 8 (size * 8)

/-- The digest of a message. -/
def sha256 (message : List UInt8) : List UInt8 :=
  (compressAll .initial (wordsOf (pad message))).words.flatMap fun w => bytesOf 4 w.toNat

end CollectionQuery.Digest
