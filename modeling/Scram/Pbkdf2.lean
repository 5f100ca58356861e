import Scram.Octets

/-!
# Keys derived from a password

Password-based key derivation in general, over any pseudorandom function with results of one width:
a key of any length, put together of as many blocks as it takes and cut to its length. Each block is
the exclusive or of a chain of results. The salted password of an exchange is the case of one block.

The chain is said by its links here, each under its own number, and not by the two values that a loop
over it carries along.
-/

namespace Scram.Pbkdf2

/-- The links of the chain that begins with the seed. The seed itself is link 0 and not part of a
block. -/
def link (prf : Bytes → Bytes → Bytes) (password seed : Bytes) : Nat → Bytes
  | 0 => seed
  | k + 1 => prf password (link prf password seed k)

/-- The exclusive or of all the strings. -/
def xorAll : List Bytes → Bytes
  | [] => []
  | first :: rest => rest.foldl xorOctets first

/-- The block with this number, which is written behind the salt in four octets. -/
def block (prf : Bytes → Bytes → Bytes) (password salt : Bytes) (count index : Nat) : Bytes :=
  xorAll ((List.range' 1 count).map (link prf password (salt ++ bigEndian 4 index)))

/-- The derived key of `size` octets, where the function gives `width`. Blocks are numbered from one,
and there are no more of them than four octets can number. -/
def derive? (prf : Bytes → Bytes → Bytes) (width : Nat) (password salt : Bytes) (count size : Nat) :
    Option Bytes :=
  if size ≤ 4294967295 * width then
    some (((List.range' 1 ((size + width - 1) / width)).flatMap
      (block prf password salt count)).take size)
  else
    none

/-- A key as long as one result of the function is the first block. -/
theorem derive?_width {prf : Bytes → Bytes → Bytes} {width : Nat} {password salt : Bytes}
    {count : Nat} (positive : 0 < width)
    (full : (block prf password salt count 1).length = width) :
    derive? prf width password salt count width = some (block prf password salt count 1) := by
  have one : (width + width - 1) / width = 1 := Nat.div_eq_of_lt_le (by omega) (by omega)
  unfold derive?
  rw [if_pos (by omega), one, List.range'_one, List.flatMap_singleton,
    List.take_of_length_le (Nat.le_of_eq full)]

end Scram.Pbkdf2
