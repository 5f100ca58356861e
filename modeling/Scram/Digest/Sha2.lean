import Scram.Digest.HashFunction

/-!
# SHA-2

SHA-256 and SHA-512, which are one algorithm on words of two widths. `Sha2.Word` holds what a
width decides: the six rotations-and-shifts, the round constants, and how a word is read and
written. The schedule, the round and the compression are stated once over any such word.
-/

namespace Scram.Sha2

/-- What a word width decides. -/
class Word (W : Type) extends Add W, AndOp W, XorOp W, Complement W, Inhabited W where
  /-- How many octets a word has. -/
  size : Nat
  ofOctets : Bytes → W
  toOctets : W → Bytes
  /-- Mixes the first working variable in each round. -/
  sumA : W → W
  /-- Mixes the fifth working variable in each round. -/
  sumE : W → W
  /-- Mixes the word fifteen places back in the schedule. -/
  early : W → W
  /-- Mixes the word two places back in the schedule. -/
  late : W → W
  /-- One constant a round. -/
  constants : List W
  length_toOctets : ∀ w, (toOctets w).length = size

/-- The chaining value, eight words. -/
structure State (W : Type) where
  a : W
  b : W
  c : W
  d : W
  e : W
  f : W
  g : W
  h : W

section Compression

variable {W : Type} [Word W]

/-- Takes the bits of `y` where `x` is set, and those of `z` elsewhere. -/
@[inline] def choose (x y z : W) : W := (x &&& y) ^^^ (~~~x &&& z)

/-- The bitwise majority of three words. -/
@[inline] def majority (x y z : W) : W := (x &&& y) ^^^ (x &&& z) ^^^ (y &&& z)

/-- Extends a schedule, held latest word first, by `count` words. -/
@[specialize] def extend : (count : Nat) → List W → List W
  | 0, words => words
  | count + 1, words =>
    extend count
      ((Word.late (words.getD 1 default) + words.getD 6 default
        + Word.early (words.getD 14 default) + words.getD 15 default) :: words)

/-- One word for each round: the sixteen of the block, then their extension. -/
@[specialize] def schedule (block : Bytes) : List W :=
  let words := (blocks (Word.size W) block).map Word.ofOctets
  (extend ((Word.constants : List W).length - 16) words.reverse).reverse

/-- One round, on the sum of its constant and its schedule word. -/
@[specialize] def round (s : State W) (input : W) : State W :=
  let first := s.h + Word.sumE s.e + choose s.e s.f s.g + input
  let second := Word.sumA s.a + majority s.a s.b s.c
  ⟨first + second, s.a, s.b, s.c, s.d + first, s.e, s.f, s.g⟩

/-- Mixes one block into the chaining value. -/
@[specialize] def compress (s : State W) (block : Bytes) : State W :=
  let t := (List.zipWith (· + ·) Word.constants (schedule block)).foldl round s
  ⟨s.a + t.a, s.b + t.b, s.c + t.c, s.d + t.d, s.e + t.e, s.f + t.f, s.g + t.g, s.h + t.h⟩

/-- The octets of the chaining value. -/
def State.toOctets (s : State W) : Bytes :=
  [s.a, s.b, s.c, s.d, s.e, s.f, s.g, s.h].flatMap Word.toOctets

theorem State.length_toOctets (s : State W) : s.toOctets.length = 8 * Word.size W := by
  simp [State.toOctets, Word.length_toOctets]
  omega

end Compression

/-! ## Words of 32 bits -/

/-- Rotates to the right by `n` places, `0 < n < 32`. -/
@[inline] def rotate32 (w n : UInt32) : UInt32 := w >>> n ||| w <<< (32 - n)

def constants256 : List UInt32 :=
  [0x428a2f98, 0x71374491, 0xb5c0fbcf, 0xe9b5dba5, 0x3956c25b, 0x59f111f1, 0x923f82a4,
    0xab1c5ed5, 0xd807aa98, 0x12835b01, 0x243185be, 0x550c7dc3, 0x72be5d74, 0x80deb1fe,
    0x9bdc06a7, 0xc19bf174, 0xe49b69c1, 0xefbe4786, 0x0fc19dc6, 0x240ca1cc, 0x2de92c6f,
    0x4a7484aa, 0x5cb0a9dc, 0x76f988da, 0x983e5152, 0xa831c66d, 0xb00327c8, 0xbf597fc7,
    0xc6e00bf3, 0xd5a79147, 0x06ca6351, 0x14292967, 0x27b70a85, 0x2e1b2138, 0x4d2c6dfc,
    0x53380d13, 0x650a7354, 0x766a0abb, 0x81c2c92e, 0x92722c85, 0xa2bfe8a1, 0xa81a664b,
    0xc24b8b70, 0xc76c51a3, 0xd192e819, 0xd6990624, 0xf40e3585, 0x106aa070, 0x19a4c116,
    0x1e376c08, 0x2748774c, 0x34b0bcb5, 0x391c0cb3, 0x4ed8aa4a, 0x5b9cca4f, 0x682e6ff3,
    0x748f82ee, 0x78a5636f, 0x84c87814, 0x8cc70208, 0x90befffa, 0xa4506ceb, 0xbef9a3f7,
    0xc67178f2]

instance : Word UInt32 where
  size := 4
  ofOctets := List.foldl (fun w o => w <<< 8 ||| o.toUInt32) 0
  toOctets w := bigEndian 4 w.toNat
  sumA w := rotate32 w 2 ^^^ rotate32 w 13 ^^^ rotate32 w 22
  sumE w := rotate32 w 6 ^^^ rotate32 w 11 ^^^ rotate32 w 25
  early w := rotate32 w 7 ^^^ rotate32 w 18 ^^^ w >>> 3
  late w := rotate32 w 17 ^^^ rotate32 w 19 ^^^ w >>> 10
  constants := constants256
  length_toOctets w := length_bigEndian 4 w.toNat

def initial256 : State UInt32 :=
  ⟨0x6a09e667, 0xbb67ae85, 0x3c6ef372, 0xa54ff53a,
   0x510e527f, 0x9b05688c, 0x1f83d9ab, 0x5be0cd19⟩

/-! ## Words of 64 bits -/

/-- Rotates to the right by `n` places, `0 < n < 64`. -/
@[inline] def rotate64 (w n : UInt64) : UInt64 := w >>> n ||| w <<< (64 - n)

def constants512 : List UInt64 :=
  [0x428a2f98d728ae22, 0x7137449123ef65cd, 0xb5c0fbcfec4d3b2f, 0xe9b5dba58189dbbc,
    0x3956c25bf348b538, 0x59f111f1b605d019, 0x923f82a4af194f9b, 0xab1c5ed5da6d8118,
    0xd807aa98a3030242, 0x12835b0145706fbe, 0x243185be4ee4b28c, 0x550c7dc3d5ffb4e2,
    0x72be5d74f27b896f, 0x80deb1fe3b1696b1, 0x9bdc06a725c71235, 0xc19bf174cf692694,
    0xe49b69c19ef14ad2, 0xefbe4786384f25e3, 0x0fc19dc68b8cd5b5, 0x240ca1cc77ac9c65,
    0x2de92c6f592b0275, 0x4a7484aa6ea6e483, 0x5cb0a9dcbd41fbd4, 0x76f988da831153b5,
    0x983e5152ee66dfab, 0xa831c66d2db43210, 0xb00327c898fb213f, 0xbf597fc7beef0ee4,
    0xc6e00bf33da88fc2, 0xd5a79147930aa725, 0x06ca6351e003826f, 0x142929670a0e6e70,
    0x27b70a8546d22ffc, 0x2e1b21385c26c926, 0x4d2c6dfc5ac42aed, 0x53380d139d95b3df,
    0x650a73548baf63de, 0x766a0abb3c77b2a8, 0x81c2c92e47edaee6, 0x92722c851482353b,
    0xa2bfe8a14cf10364, 0xa81a664bbc423001, 0xc24b8b70d0f89791, 0xc76c51a30654be30,
    0xd192e819d6ef5218, 0xd69906245565a910, 0xf40e35855771202a, 0x106aa07032bbd1b8,
    0x19a4c116b8d2d0c8, 0x1e376c085141ab53, 0x2748774cdf8eeb99, 0x34b0bcb5e19b48a8,
    0x391c0cb3c5c95a63, 0x4ed8aa4ae3418acb, 0x5b9cca4f7763e373, 0x682e6ff3d6b2b8a3,
    0x748f82ee5defb2fc, 0x78a5636f43172f60, 0x84c87814a1f0ab72, 0x8cc702081a6439ec,
    0x90befffa23631e28, 0xa4506cebde82bde9, 0xbef9a3f7b2c67915, 0xc67178f2e372532b,
    0xca273eceea26619c, 0xd186b8c721c0c207, 0xeada7dd6cde0eb1e, 0xf57d4f7fee6ed178,
    0x06f067aa72176fba, 0x0a637dc5a2c898a6, 0x113f9804bef90dae, 0x1b710b35131c471b,
    0x28db77f523047d84, 0x32caab7b40c72493, 0x3c9ebe0a15c9bebc, 0x431d67c49c100d4c,
    0x4cc5d4becb3e42b6, 0x597f299cfc657e2a, 0x5fcb6fab3ad6faec, 0x6c44198c4a475817]

instance : Word UInt64 where
  size := 8
  ofOctets := List.foldl (fun w o => w <<< 8 ||| o.toUInt64) 0
  toOctets w := bigEndian 8 w.toNat
  sumA w := rotate64 w 28 ^^^ rotate64 w 34 ^^^ rotate64 w 39
  sumE w := rotate64 w 14 ^^^ rotate64 w 18 ^^^ rotate64 w 41
  early w := rotate64 w 1 ^^^ rotate64 w 8 ^^^ w >>> 7
  late w := rotate64 w 19 ^^^ rotate64 w 61 ^^^ w >>> 6
  constants := constants512
  length_toOctets w := length_bigEndian 8 w.toNat

def initial512 : State UInt64 :=
  ⟨0x6a09e667f3bcc908, 0xbb67ae8584caa73b, 0x3c6ef372fe94f82b, 0xa54ff53a5f1d36f1,
   0x510e527fade682d1, 0x9b05688c2b3e6c1f, 0x1f83d9abfb41bd6b, 0x5be0cd19137e2179⟩

end Scram.Sha2
