/-!
# SHA-256

The 256-bit digest of a byte string: padding to whole blocks, the message schedule
of a block, and sixty-four rounds on eight words.
-/

namespace FormScaffold.Hash.Sha256

/-- The eight words carried from block to block. -/
structure State where
  a : UInt32
  b : UInt32
  c : UInt32
  d : UInt32
  e : UInt32
  f : UInt32
  g : UInt32
  h : UInt32

/-- The state before the first block. -/
def initial : State :=
  ⟨0x6a09e667, 0xbb67ae85, 0x3c6ef372, 0xa54ff53a, 0x510e527f, 0x9b05688c, 0x1f83d9ab, 0x5be0cd19⟩

/-- One constant for each round. -/
def roundConstants : List UInt32 :=
  [0x428a2f98, 0x71374491, 0xb5c0fbcf, 0xe9b5dba5, 0x3956c25b, 0x59f111f1, 0x923f82a4, 0xab1c5ed5,
   0xd807aa98, 0x12835b01, 0x243185be, 0x550c7dc3, 0x72be5d74, 0x80deb1fe, 0x9bdc06a7, 0xc19bf174,
   0xe49b69c1, 0xefbe4786, 0x0fc19dc6, 0x240ca1cc, 0x2de92c6f, 0x4a7484aa, 0x5cb0a9dc, 0x76f988da,
   0x983e5152, 0xa831c66d, 0xb00327c8, 0xbf597fc7, 0xc6e00bf3, 0xd5a79147, 0x06ca6351, 0x14292967,
   0x27b70a85, 0x2e1b2138, 0x4d2c6dfc, 0x53380d13, 0x650a7354, 0x766a0abb, 0x81c2c92e, 0x92722c85,
   0xa2bfe8a1, 0xa81a664b, 0xc24b8b70, 0xc76c51a3, 0xd192e819, 0xd6990624, 0xf40e3585, 0x106aa070,
   0x19a4c116, 0x1e376c08, 0x2748774c, 0x34b0bcb5, 0x391c0cb3, 0x4ed8aa4a, 0x5b9cca4f, 0x682e6ff3,
   0x748f82ee, 0x78a5636f, 0x84c87814, 0x8cc70208, 0x90befffa, 0xa4506ceb, 0xbef9a3f7, 0xc67178f2]

/-- Rotate a word to the right. -/
def rotr (x : UInt32) (n : UInt32) : UInt32 := (x >>> n) ||| (x <<< (32 - n))

/-- Mixing of older schedule words. -/
def sigma0 (x : UInt32) : UInt32 := rotr x 7 ^^^ rotr x 18 ^^^ (x >>> 3)

/-- Mixing of newer schedule words. -/
def sigma1 (x : UInt32) : UInt32 := rotr x 17 ^^^ rotr x 19 ^^^ (x >>> 10)

/-- One round of compression with a round constant and a schedule word. -/
def round (s : State) (k w : UInt32) : State :=
  let s1 := rotr s.e 6 ^^^ rotr s.e 11 ^^^ rotr s.e 25
  let ch := (s.e &&& s.f) ^^^ ((~~~ s.e) &&& s.g)
  let t1 := s.h + s1 + ch + k + w
  let s0 := rotr s.a 2 ^^^ rotr s.a 13 ^^^ rotr s.a 22
  let maj := (s.a &&& s.b) ^^^ (s.a &&& s.c) ^^^ (s.b &&& s.c)
  ⟨t1 + (s0 + maj), s.a, s.b, s.c, s.d + t1, s.e, s.f, s.g⟩

/-- The word that follows a window of sixteen schedule words. -/
def nextWord (window : Array UInt32) : UInt32 :=
  sigma1 (window.getD 14 0) + window.getD 9 0 + sigma0 (window.getD 1 0) + window.getD 0 0

/-- Run the rounds of one block; the window holds the sixteen schedule words from
the current round on. -/
def rounds : List UInt32 → Array UInt32 → State → State
  | [], _, s => s
  | k :: ks, window, s =>
      let s := round s k (window.getD 0 0)
      rounds ks ((window.extract 1 16).push (nextWord window)) s

/-- Add the words of a block's result to the state before it. -/
def State.add (s t : State) : State :=
  ⟨s.a + t.a, s.b + t.b, s.c + t.c, s.d + t.d, s.e + t.e, s.f + t.f, s.g + t.g, s.h + t.h⟩

/-- The big-endian words of a byte string; a short last word is filled with zeros. -/
def wordsOf : List UInt8 → List UInt32
  | [] => []
  | [a] => [a.toUInt32 <<< 24]
  | [a, b] => [(a.toUInt32 <<< 24) ||| (b.toUInt32 <<< 16)]
  | [a, b, c] => [(a.toUInt32 <<< 24) ||| (b.toUInt32 <<< 16) ||| (c.toUInt32 <<< 8)]
  | a :: b :: c :: d :: rest =>
      ((a.toUInt32 <<< 24) ||| (b.toUInt32 <<< 16) ||| (c.toUInt32 <<< 8) ||| d.toUInt32)
        :: wordsOf rest

/-- The bytes of a word, highest first. -/
def bytesOfWord (w : UInt32) : List UInt8 :=
  [(w >>> 24).toUInt8, (w >>> 16).toUInt8, (w >>> 8).toUInt8, w.toUInt8]

/-- Zero bytes between the closing one bit and the length. -/
def paddingZeros (size : Nat) : Nat := (119 - size % 64) % 64

/-- The message with a closing one bit, zeros, and its length in bits. -/
def padded (message : List UInt8) : List UInt8 :=
  let bits := message.length * 8
  message ++ (0x80 :: List.replicate (paddingZeros message.length) 0)
    ++ bytesOfWord (UInt32.ofNat (bits / Nat.pow 2 32)) ++ bytesOfWord (UInt32.ofNat bits)

/-- Compress blocks of sixteen words, one unit of fuel for each block. -/
def compressBlocks : Nat → List UInt32 → State → State
  | 0, _, s => s
  | fuel + 1, words, s =>
      if words.isEmpty then s
      else
        compressBlocks fuel (words.drop 16)
          (s.add (rounds roundConstants (words.take 16).toArray s))

/-- The digest of a message as thirty-two bytes. -/
def digest (message : List UInt8) : List UInt8 :=
  let words := wordsOf (padded message)
  let s := compressBlocks words.length words initial
  [s.a, s.b, s.c, s.d, s.e, s.f, s.g, s.h].flatMap bytesOfWord

/-- Lower-case hexadecimal digit. -/
def hexDigit (n : Nat) : Char :=
  if n < 10 then Char.ofNat (48 + n) else Char.ofNat (87 + n)

/-- Lower-case hexadecimal text of bytes. -/
def hexText (bytes : List UInt8) : String :=
  String.ofList (bytes.flatMap fun b => [hexDigit (b.toNat / 16), hexDigit (b.toNat % 16)])

/-- Digest of a byte string as lower-case hexadecimal text. -/
def hexDigest (message : List UInt8) : String := hexText (digest message)

/-- Digest of the UTF-8 form of a text. -/
def ofText (s : String) : String := hexDigest s.toUTF8.toList

end FormScaffold.Hash.Sha256
