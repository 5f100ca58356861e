import Scram.Digest.Sha1
import Scram.Digest.Sha2

/-!
# The secure hash functions

SHA-1, SHA-256 and SHA-512 as members of the iterated family: a compression each, and the sizes
of its blocks, of the length in its padding, and of its digests.
-/

namespace Scram.HashFunction

/-- SHA-1. -/
def sha1 : HashFunction where
  blockSize := 64
  lengthSize := 8
  digestSize := 20
  State := Sha1.State
  initial := ⟨0x67452301, 0xefcdab89, 0x98badcfe, 0x10325476, 0xc3d2e1f0⟩
  compress := Sha1.compress
  digest := Sha1.State.toOctets
  blockSize_pos := by decide
  digestSize_le_blockSize := by decide
  length_digest := Sha1.State.length_toOctets

/-- SHA-256. -/
def sha256 : HashFunction where
  blockSize := 64
  lengthSize := 8
  digestSize := 32
  State := Sha2.State UInt32
  initial := Sha2.initial256
  compress s block := Sha2.compress s block
  digest s := s.toOctets
  blockSize_pos := by decide
  digestSize_le_blockSize := by decide
  length_digest := Sha2.State.length_toOctets

/-- SHA-512. -/
def sha512 : HashFunction where
  blockSize := 128
  lengthSize := 16
  digestSize := 64
  State := Sha2.State UInt64
  initial := Sha2.initial512
  compress s block := Sha2.compress s block
  digest s := s.toOctets
  blockSize_pos := by decide
  digestSize_le_blockSize := by decide
  length_digest := Sha2.State.length_toOctets

end Scram.HashFunction
