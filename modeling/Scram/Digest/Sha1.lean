import Scram.Digest.HashFunction

/-!
# SHA-1

Eighty rounds on five words, in four runs of twenty that differ in their mixing function and
constant.
-/

namespace Scram.Sha1

/-- The chaining value, five words. -/
structure State where
  a : UInt32
  b : UInt32
  c : UInt32
  d : UInt32
  e : UInt32

/-- Rotates to the left by `n` places, `0 < n < 32`. -/
@[inline] def rotate (w n : UInt32) : UInt32 := w <<< n ||| w >>> (32 - n)

/-- Extends a schedule, held latest word first, by `count` words. -/
def extend : (count : Nat) → List UInt32 → List UInt32
  | 0, words => words
  | count + 1, words =>
    extend count
      (rotate (words.getD 2 0 ^^^ words.getD 7 0 ^^^ words.getD 13 0 ^^^ words.getD 15 0) 1 :: words)

/-- One word for each round: the sixteen of the block, then their extension. -/
def schedule (block : Bytes) : List UInt32 :=
  let words := (blocks 4 block).map fun octets =>
    octets.foldl (fun (w : UInt32) o => w <<< 8 ||| o.toUInt32) 0
  (extend 64 words.reverse).reverse

/-- One round with the mixing function and the constant of its run. -/
@[specialize] def round (mix : UInt32 → UInt32 → UInt32 → UInt32) (constant : UInt32)
    (s : State) (word : UInt32) : State :=
  ⟨rotate s.a 5 + mix s.b s.c s.d + s.e + constant + word, s.a, rotate s.b 30, s.c, s.d⟩

/-- Takes the bits of `y` where `x` is set, and those of `z` elsewhere. -/
def choose (x y z : UInt32) : UInt32 := (x &&& y) ||| (~~~x &&& z)

def parity (x y z : UInt32) : UInt32 := x ^^^ y ^^^ z

/-- The bitwise majority of three words. -/
def majority (x y z : UInt32) : UInt32 := (x &&& y) ||| (x &&& z) ||| (y &&& z)

/-- Mixes one block into the chaining value. -/
def compress (s : State) (block : Bytes) : State :=
  let words := schedule block
  let run (start : Nat) := (words.drop start).take 20
  let t := (run 0).foldl (round choose 0x5a827999) s
  let t := (run 20).foldl (round parity 0x6ed9eba1) t
  let t := (run 40).foldl (round majority 0x8f1bbcdc) t
  let t := (run 60).foldl (round parity 0xca62c1d6) t
  ⟨s.a + t.a, s.b + t.b, s.c + t.c, s.d + t.d, s.e + t.e⟩

/-- The octets of the chaining value. -/
def State.toOctets (s : State) : Bytes :=
  [s.a, s.b, s.c, s.d, s.e].flatMap fun w => bigEndian 4 w.toNat

theorem State.length_toOctets (s : State) : s.toOctets.length = 20 := by
  simp [State.toOctets]

end Scram.Sha1
