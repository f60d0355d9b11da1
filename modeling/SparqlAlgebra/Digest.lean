/-!
# Digests

A message is padded to whole blocks of bytes, and each block is mixed into a state of words.
-/

namespace SparqlAlgebra

/-!
## Blocks of bytes

What the digests share: cutting a message into blocks, padding it, and reading and writing words.
-/

namespace Digest

/-- Cuts a list into runs of `n`; the fuel bounds their number. -/
def chunksFrom {α : Type} (n : Nat) : Nat → List α → List (List α)
  | 0, _ => []
  | fuel + 1, xs => if xs.isEmpty then [] else xs.take n :: chunksFrom n fuel (xs.drop n)

/-- Cuts a list into runs of `n`, for a positive `n`. -/
def chunks {α : Type} (n : Nat) (xs : List α) : List (List α) := chunksFrom n xs.length xs

/-- The number whose most significant byte comes first. -/
def ofBigEndian (bs : List UInt8) : Nat := bs.foldl (fun n b => 256 * n + b.toNat) 0

/-- The `n` lower bytes of a number, the most significant one first. -/
def toBigEndian : Nat → Nat → List UInt8
  | 0, _ => []
  | n + 1, v => UInt8.ofNat (v / Nat.pow 256 n) :: toBigEndian n v

/-- Appends a one bit, zeros and the length in bits, so that the length field of `lengthBytes` bytes ends
a block. -/
def pad (blockBytes lengthBytes : Nat) (bigEndian : Bool) (message : List UInt8) : List UInt8 :=
  let used := message.length + 1 + lengthBytes
  let zeros := (blockBytes - used % blockBytes) % blockBytes
  let length := toBigEndian lengthBytes (8 * message.length)
  message ++ 0x80 :: List.replicate zeros 0 ++ (if bigEndian then length else length.reverse)

/-- Two lower-case hexadecimal digits for each byte. -/
def toHex (bs : List UInt8) : String :=
  String.ofList (bs.flatMap fun b => [Nat.digitChar (b.toNat / 16), Nat.digitChar (b.toNat % 16)])

end Digest

/-!
## MD5

Sixty-four rounds over a state of four words, which count their bytes from the least significant one.
-/

namespace Digest

/-- The four words of the state. -/
structure Md5State where
  a : UInt32
  b : UInt32
  c : UInt32
  d : UInt32

namespace Md5

/-- Constants of the rounds. -/
def constants : List UInt32 := [
    0xd76aa478, 0xe8c7b756, 0x242070db, 0xc1bdceee, 0xf57c0faf, 0x4787c62a, 0xa8304613, 0xfd469501,
    0x698098d8, 0x8b44f7af, 0xffff5bb1, 0x895cd7be, 0x6b901122, 0xfd987193, 0xa679438e, 0x49b40821,
    0xf61e2562, 0xc040b340, 0x265e5a51, 0xe9b6c7aa, 0xd62f105d, 0x02441453, 0xd8a1e681, 0xe7d3fbc8,
    0x21e1cde6, 0xc33707d6, 0xf4d50d87, 0x455a14ed, 0xa9e3e905, 0xfcefa3f8, 0x676f02d9, 0x8d2a4c8a,
    0xfffa3942, 0x8771f681, 0x6d9d6122, 0xfde5380c, 0xa4beea44, 0x4bdecfa9, 0xf6bb4b60, 0xbebfbc70,
    0x289b7ec6, 0xeaa127fa, 0xd4ef3085, 0x04881d05, 0xd9d4d039, 0xe6db99e5, 0x1fa27cf8, 0xc4ac5665,
    0xf4292244, 0x432aff97, 0xab9423a7, 0xfc93a039, 0x655b59c3, 0x8f0ccc92, 0xffeff47d, 0x85845dd1,
    0x6fa87e4f, 0xfe2ce6e0, 0xa3014314, 0x4e0811a1, 0xf7537e82, 0xbd3af235, 0x2ad7d2bb, 0xeb86d391]

/-- How far each of four consecutive rounds rotates, for the four groups of sixteen rounds. -/
def rotations : List (List UInt32) := [[7, 12, 17, 22], [5, 9, 14, 20], [4, 11, 16, 23], [6, 10, 15, 21]]

/-- Moves the bits to the left, and those that fall out to the right end. -/
def rotateLeft (x n : UInt32) : UInt32 := (x <<< n) ||| (x >>> (32 - n))

/-- Round number `i` with its constant. -/
def round (words : List UInt32) (s : Md5State) (i : Nat × UInt32) : Md5State :=
  let (n, k) := i
  let (f, g) :=
    if n < 16 then ((s.b &&& s.c) ||| (~~~s.b &&& s.d), n)
    else if n < 32 then ((s.d &&& s.b) ||| (~~~s.d &&& s.c), (5 * n + 1) % 16)
    else if n < 48 then (s.b ^^^ s.c ^^^ s.d, (3 * n + 5) % 16)
    else (s.c ^^^ (s.b ||| ~~~s.d), 7 * n % 16)
  let amount := ((rotations.getD (n / 16) []).getD (n % 4) 0)
  ⟨s.d, s.b + rotateLeft (s.a + f + k + words.getD g 0) amount, s.b, s.c⟩

/-- Mixes one block into the state. -/
def absorb (s : Md5State) (block : List UInt8) : Md5State :=
  let words := (chunks 4 block).map fun bs => UInt32.ofNat (ofBigEndian bs.reverse)
  let r := ((List.range 64).zip constants).foldl (round words) s
  ⟨s.a + r.a, s.b + r.b, s.c + r.c, s.d + r.d⟩

end Md5

/-- The MD5 digest of a message: sixteen bytes, each word with its lowest byte first. -/
def md5 (message : List UInt8) : List UInt8 :=
  let s := (chunks 64 (pad 64 8 false message)).foldl Md5.absorb
    ⟨0x67452301, 0xefcdab89, 0x98badcfe, 0x10325476⟩
  [s.a, s.b, s.c, s.d].flatMap fun w => (toBigEndian 4 w.toNat).reverse

end Digest

/-!
## SHA-1

Eighty rounds over a state of five words.
-/

namespace Digest

/-- The five words of the state. -/
structure Sha1State where
  a : UInt32
  b : UInt32
  c : UInt32
  d : UInt32
  e : UInt32

namespace Sha1

/-- Moves the bits to the left, and those that fall out to the right end. -/
def rotateLeft (x n : UInt32) : UInt32 := (x <<< n) ||| (x >>> (32 - n))

/-- Extends a window of sixteen words: gives `n` words, the window first. -/
def schedule : Nat → List UInt32 → List UInt32
  | 0, _ => []
  | n + 1, window =>
    match window with
    | w0 :: rest =>
      let next := rotateLeft (window.getD 13 0 ^^^ window.getD 8 0 ^^^ window.getD 2 0 ^^^ w0) 1
      w0 :: schedule n (rest ++ [next])
    | [] => []

/-- Round number `i` with its word of the schedule. -/
def round (s : Sha1State) (i : Nat × UInt32) : Sha1State :=
  let (n, w) := i
  let (f, k) :=
    if n < 20 then ((s.b &&& s.c) ||| (~~~s.b &&& s.d), 0x5a827999)
    else if n < 40 then (s.b ^^^ s.c ^^^ s.d, 0x6ed9eba1)
    else if n < 60 then ((s.b &&& s.c) ||| (s.b &&& s.d) ||| (s.c &&& s.d), 0x8f1bbcdc)
    else (s.b ^^^ s.c ^^^ s.d, 0xca62c1d6)
  ⟨rotateLeft s.a 5 + f + s.e + k + w, s.a, rotateLeft s.b 30, s.c, s.d⟩

/-- Mixes one block into the state. -/
def absorb (s : Sha1State) (block : List UInt8) : Sha1State :=
  let words := schedule 80 ((chunks 4 block).map fun bs => UInt32.ofNat (ofBigEndian bs))
  let r := ((List.range 80).zip words).foldl round s
  ⟨s.a + r.a, s.b + r.b, s.c + r.c, s.d + r.d, s.e + r.e⟩

end Sha1

/-- The SHA-1 digest of a message: twenty bytes, each word with its highest byte first. -/
def sha1 (message : List UInt8) : List UInt8 :=
  let s := (chunks 64 (pad 64 8 true message)).foldl Sha1.absorb
    ⟨0x67452301, 0xefcdab89, 0x98badcfe, 0x10325476, 0xc3d2e1f0⟩
  [s.a, s.b, s.c, s.d, s.e].flatMap fun w => toBigEndian 4 w.toNat

end Digest

/-!
## SHA-256, SHA-384 and SHA-512

A message is padded to whole blocks, and each block is mixed into a state of eight words. The two word
sizes share their structure; SHA-384 is SHA-512 with another start and a shorter result.
-/

namespace Digest

/-- What the two word sizes of the family differ in. -/
structure Sha2Variant (Word : Type) where
  /-- Constants of the rounds. -/
  constants : List Word
  /-- Bytes of a word. -/
  wordBytes : Nat
  /-- Reads a word. -/
  ofBytes : List UInt8 → Word
  /-- Writes a word. -/
  toBytes : Word → List UInt8
  /-- Addition, modulo the word size. -/
  add : Word → Word → Word
  /-- The two functions that extend the message schedule. -/
  extend0 : Word → Word
  extend1 : Word → Word
  /-- The two functions that mix the first and the fifth word. -/
  mix0 : Word → Word
  mix1 : Word → Word
  /-- Chooses bits of the second or third word by the first one. -/
  choose : Word → Word → Word → Word
  /-- The bits that most of the three words have. -/
  majority : Word → Word → Word → Word

/-- The eight words of the state. -/
structure Sha2State (Word : Type) where
  a : Word
  b : Word
  c : Word
  d : Word
  e : Word
  f : Word
  g : Word
  h : Word

namespace Sha2Variant

variable {Word : Type} (v : Sha2Variant Word)

/-- Extends a window of sixteen words: gives `n` words, the window first. -/
def schedule : Nat → List Word → List Word
  | 0, _ => []
  | n + 1, window =>
    match window with
    | [w0, w1, w2, w3, w4, w5, w6, w7, w8, w9, w10, w11, w12, w13, w14, w15] =>
      let next := v.add (v.add (v.extend1 w14) w9) (v.add (v.extend0 w1) w0)
      w0 :: schedule n [w1, w2, w3, w4, w5, w6, w7, w8, w9, w10, w11, w12, w13, w14, w15, next]
    | _ => []

/-- One round, with its constant and its word of the schedule. -/
def round (s : Sha2State Word) (kw : Word × Word) : Sha2State Word :=
  let t := v.add (v.add (v.add s.h (v.mix1 s.e)) (v.add (v.choose s.e s.f s.g) kw.1)) kw.2
  let u := v.add (v.mix0 s.a) (v.majority s.a s.b s.c)
  ⟨v.add t u, s.a, s.b, s.c, v.add s.d t, s.e, s.f, s.g⟩

/-- Mixes one block into the state. -/
def absorb (s : Sha2State Word) (block : List UInt8) : Sha2State Word :=
  let words := v.schedule v.constants.length ((chunks v.wordBytes block).map v.ofBytes)
  let r := (v.constants.zip words).foldl v.round s
  ⟨v.add s.a r.a, v.add s.b r.b, v.add s.c r.c, v.add s.d r.d, v.add s.e r.e, v.add s.f r.f,
    v.add s.g r.g, v.add s.h r.h⟩

/-- The bytes of the final state. -/
def hash (start : Sha2State Word) (message : List UInt8) : List UInt8 :=
  let padded := pad (16 * v.wordBytes) (2 * v.wordBytes) true message
  let s := (chunks (16 * v.wordBytes) padded).foldl v.absorb start
  [s.a, s.b, s.c, s.d, s.e, s.f, s.g, s.h].flatMap v.toBytes

end Sha2Variant

/-- Rotates a word of 32 bits to the right. -/
def rotateRight32 (x : UInt32) (n : UInt32) : UInt32 := (x >>> n) ||| (x <<< (32 - n))

/-- Rotates a word of 64 bits to the right. -/
def rotateRight64 (x : UInt64) (n : UInt64) : UInt64 := (x >>> n) ||| (x <<< (64 - n))

/-- The variant with words of 32 bits. -/
def sha2Words32 : Sha2Variant UInt32 where
  constants := [
    0x428a2f98, 0x71374491, 0xb5c0fbcf, 0xe9b5dba5, 0x3956c25b, 0x59f111f1, 0x923f82a4, 0xab1c5ed5,
    0xd807aa98, 0x12835b01, 0x243185be, 0x550c7dc3, 0x72be5d74, 0x80deb1fe, 0x9bdc06a7, 0xc19bf174,
    0xe49b69c1, 0xefbe4786, 0x0fc19dc6, 0x240ca1cc, 0x2de92c6f, 0x4a7484aa, 0x5cb0a9dc, 0x76f988da,
    0x983e5152, 0xa831c66d, 0xb00327c8, 0xbf597fc7, 0xc6e00bf3, 0xd5a79147, 0x06ca6351, 0x14292967,
    0x27b70a85, 0x2e1b2138, 0x4d2c6dfc, 0x53380d13, 0x650a7354, 0x766a0abb, 0x81c2c92e, 0x92722c85,
    0xa2bfe8a1, 0xa81a664b, 0xc24b8b70, 0xc76c51a3, 0xd192e819, 0xd6990624, 0xf40e3585, 0x106aa070,
    0x19a4c116, 0x1e376c08, 0x2748774c, 0x34b0bcb5, 0x391c0cb3, 0x4ed8aa4a, 0x5b9cca4f, 0x682e6ff3,
    0x748f82ee, 0x78a5636f, 0x84c87814, 0x8cc70208, 0x90befffa, 0xa4506ceb, 0xbef9a3f7, 0xc67178f2]
  wordBytes := 4
  ofBytes bs := UInt32.ofNat (ofBigEndian bs)
  toBytes w := toBigEndian 4 w.toNat
  add := (· + ·)
  extend0 x := rotateRight32 x 7 ^^^ rotateRight32 x 18 ^^^ (x >>> 3)
  extend1 x := rotateRight32 x 17 ^^^ rotateRight32 x 19 ^^^ (x >>> 10)
  mix0 x := rotateRight32 x 2 ^^^ rotateRight32 x 13 ^^^ rotateRight32 x 22
  mix1 x := rotateRight32 x 6 ^^^ rotateRight32 x 11 ^^^ rotateRight32 x 25
  choose x y z := (x &&& y) ^^^ (~~~x &&& z)
  majority x y z := (x &&& y) ^^^ (x &&& z) ^^^ (y &&& z)

/-- The variant with words of 64 bits. -/
def sha2Words64 : Sha2Variant UInt64 where
  constants := [
    0x428a2f98d728ae22, 0x7137449123ef65cd, 0xb5c0fbcfec4d3b2f, 0xe9b5dba58189dbbc,
    0x3956c25bf348b538, 0x59f111f1b605d019, 0x923f82a4af194f9b, 0xab1c5ed5da6d8118,
    0xd807aa98a3030242, 0x12835b0145706fbe, 0x243185be4ee4b28c, 0x550c7dc3d5ffb4e2,
    0x72be5d74f27b896f, 0x80deb1fe3b1696b1, 0x9bdc06a725c71235, 0xc19bf174cf692694,
    0xe49b69c19ef14ad2, 0xefbe4786384f25e3, 0x0fc19dc68b8cd5b5, 0x240ca1cc77ac9c65,
    0x2de92c6f592b0275, 0x4a7484aa6ea6e483, 0x5cb0a9dcbd41fbd4, 0x76f988da831153b5,
    0x983e5152ee66dfab, 0xa831c66d2db43210, 0xb00327c898fb213f, 0xbf597fc7beef0ee4,
    0xc6e00bf33da88fc2, 0xd5a79147930aa725, 0x06ca6351e003826f, 0x142929670a0e6e70,
    0x27b70a8546d22ffc, 0x2e1b21385c26c926, 0x4d2c6dfc5ac42aed, 0x53380d139d95b3df,
    0x650a73548baf63de, 0x766a0abb3c77b2a8, 0x81c2c92e47edaee6, 0x92722c851482353b,
    0xa2bfe8a14cf10364, 0xa81a664bbc423001, 0xc24b8b70d0f89791, 0xc76c51a30654be30,
    0xd192e819d6ef5218, 0xd69906245565a910, 0xf40e35855771202a, 0x106aa07032bbd1b8,
    0x19a4c116b8d2d0c8, 0x1e376c085141ab53, 0x2748774cdf8eeb99, 0x34b0bcb5e19b48a8,
    0x391c0cb3c5c95a63, 0x4ed8aa4ae3418acb, 0x5b9cca4f7763e373, 0x682e6ff3d6b2b8a3,
    0x748f82ee5defb2fc, 0x78a5636f43172f60, 0x84c87814a1f0ab72, 0x8cc702081a6439ec,
    0x90befffa23631e28, 0xa4506cebde82bde9, 0xbef9a3f7b2c67915, 0xc67178f2e372532b,
    0xca273eceea26619c, 0xd186b8c721c0c207, 0xeada7dd6cde0eb1e, 0xf57d4f7fee6ed178,
    0x06f067aa72176fba, 0x0a637dc5a2c898a6, 0x113f9804bef90dae, 0x1b710b35131c471b,
    0x28db77f523047d84, 0x32caab7b40c72493, 0x3c9ebe0a15c9bebc, 0x431d67c49c100d4c,
    0x4cc5d4becb3e42b6, 0x597f299cfc657e2a, 0x5fcb6fab3ad6faec, 0x6c44198c4a475817]
  wordBytes := 8
  ofBytes bs := UInt64.ofNat (ofBigEndian bs)
  toBytes w := toBigEndian 8 w.toNat
  add := (· + ·)
  extend0 x := rotateRight64 x 1 ^^^ rotateRight64 x 8 ^^^ (x >>> 7)
  extend1 x := rotateRight64 x 19 ^^^ rotateRight64 x 61 ^^^ (x >>> 6)
  mix0 x := rotateRight64 x 28 ^^^ rotateRight64 x 34 ^^^ rotateRight64 x 39
  mix1 x := rotateRight64 x 14 ^^^ rotateRight64 x 18 ^^^ rotateRight64 x 41
  choose x y z := (x &&& y) ^^^ (~~~x &&& z)
  majority x y z := (x &&& y) ^^^ (x &&& z) ^^^ (y &&& z)

/-- The SHA-256 digest, over words of 32 bits. -/
def sha256 (message : List UInt8) : List UInt8 :=
  sha2Words32.hash ⟨0x6a09e667, 0xbb67ae85, 0x3c6ef372, 0xa54ff53a, 0x510e527f, 0x9b05688c, 0x1f83d9ab, 0x5be0cd19⟩ message

/-- The SHA-384 digest: that of twice the word size from another start, cut off after 48 bytes. -/
def sha384 (message : List UInt8) : List UInt8 :=
  (sha2Words64.hash ⟨0xcbbb9d5dc1059ed8, 0x629a292a367cd507, 0x9159015a3070dd17, 0x152fecd8f70e5939,
    0x67332667ffc00b31, 0x8eb44a8768581511, 0xdb0c2e0d64f98fa7, 0x47b5481dbefa4fa4⟩ message).take 48

/-- The SHA-512 digest, over words of 64 bits. -/
def sha512 (message : List UInt8) : List UInt8 :=
  sha2Words64.hash ⟨0x6a09e667f3bcc908, 0xbb67ae8584caa73b, 0x3c6ef372fe94f82b, 0xa54ff53a5f1d36f1,
    0x510e527fade682d1, 0x9b05688c2b3e6c1f, 0x1f83d9abfb41bd6b, 0x5be0cd19137e2179⟩ message

end Digest

end SparqlAlgebra
