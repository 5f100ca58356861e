import Scram.Octets

/-!
# Base 64

The written form of binary attributes. Writing pads to groups of four. Reading is strict in
all but the padding: nothing outside the alphabet is skipped, the bits that a last symbol does
not use are zero, and the padding may be cut short or left out but is never more than the
group calls for.
-/

namespace Scram.Base64

/-- The equals sign that fills up a last group. -/
def pad : UInt8 := 0x3d

/-! ## The alphabet -/

/-- The symbol of a number below 64: capital letters, small letters, digits, plus, slash. -/
def symbol (n : Nat) : UInt8 :=
  if n < 26 then UInt8.ofNat (n + 65)
  else if n < 52 then UInt8.ofNat (n + 71)
  else if n < 62 then UInt8.ofNat (n - 4)
  else if n = 62 then 43
  else 47

/-- The number that a symbol stands for. -/
def value? (o : UInt8) : Option Nat :=
  if 65 ≤ o ∧ o ≤ 90 then some (o.toNat - 65)
  else if 97 ≤ o ∧ o ≤ 122 then some (o.toNat - 71)
  else if 48 ≤ o ∧ o ≤ 57 then some (o.toNat + 4)
  else if o = 43 then some 62
  else if o = 47 then some 63
  else none

/-- Every number below 64 is read back from its symbol. -/
theorem value?_symbol {n : Nat} (h : n < 64) : value? (symbol n) = some n := by
  have table : ∀ n < 64, value? (symbol n) = some n := by decide
  exact table n h

/-- Only the symbols of numbers below 64 are read, and each as its own number. -/
theorem value?_eq_some {o : UInt8} {n : Nat} (h : value? o = some n) : n < 64 ∧ o = symbol n := by
  -- the octets are few enough to be looked at one by one
  have table : ∀ k < 256, ∀ n ∈ value? (UInt8.ofNat k), n < 64 ∧ UInt8.ofNat k = symbol n := by
    decide +kernel
  have entry := table o.toNat o.toNat_lt n
  rw [UInt8.ofNat_toNat] at entry
  exact entry h

/-- Symbols are ASCII, so that a written form is a text with one character for each octet. -/
theorem symbol_lt (n : Nat) : symbol n < 128 := by
  by_cases h : n < 64
  · have table : ∀ n < 64, symbol n < 128 := by decide
    exact table n h
  · rw [symbol, if_neg (by omega), if_neg (by omega), if_neg (by omega), if_neg (by omega)]
    decide

/-! ## Writing -/

/-- The padded form. -/
def encode : Bytes → Bytes
  | a :: b :: c :: rest =>
    symbol (a.toNat / 4) :: symbol (a.toNat % 4 * 16 + b.toNat / 16)
      :: symbol (b.toNat % 16 * 4 + c.toNat / 64) :: symbol (c.toNat % 64) :: encode rest
  | [a, b] =>
    [symbol (a.toNat / 4), symbol (a.toNat % 4 * 16 + b.toNat / 16), symbol (b.toNat % 16 * 4), pad]
  | [a] => [symbol (a.toNat / 4), symbol (a.toNat % 4 * 16), pad, pad]
  | [] => []

/-- A written form is ASCII, the padding included. -/
theorem encode_lt (b : Bytes) : ∀ o ∈ encode b, o < 128 := by
  have pad_lt : pad < 128 := by decide
  induction b using encode.induct <;> simp_all [encode, symbol_lt]

/-- The padded form as text. -/
def text (b : Bytes) : String := asciiText (encode b)

@[simp] theorem utf8_text (b : Bytes) : utf8 (text b) = encode b := utf8_asciiText (encode_lt b)

/-! ## Reading -/

/-- The octets of a run of numbers below 64. A single number in the last group is too few to
make an octet, and bits left over from two or three numbers are zero. -/
def octets? : List Nat → Option Bytes
  | w :: x :: y :: z :: rest =>
    (octets? rest).map fun tail =>
      UInt8.ofNat (w * 4 + x / 16) :: UInt8.ofNat (x % 16 * 16 + y / 4)
        :: UInt8.ofNat (y % 4 * 64 + z) :: tail
  | [w, x, y] =>
    if y % 4 = 0 then some [UInt8.ofNat (w * 4 + x / 16), UInt8.ofNat (x % 16 * 16 + y / 4)]
    else none
  | [w, x] => if x % 16 = 0 then some [UInt8.ofNat (w * 4 + x / 16)] else none
  | [_] => none
  | [] => some []

/-- How much padding completes a last group of `count` symbols. -/
def missing (count : Nat) : Nat := (4 - count % 4) % 4

/-- Reads a written form, with its padding or with part of it or with none. -/
def decode? (written : Bytes) : Option Bytes :=
  let symbols := written.takeWhile (· ≠ pad)
  let padding := written.dropWhile (· ≠ pad)
  if padding.all (· = pad) ∧ padding.length ≤ missing symbols.length then
    (symbols.mapM value?).bind octets?
  else
    none

end Scram.Base64
