import Scram.Algorithm

/-!
# The keyed hash as the standard has it

A keyed hash is computed by two hashers that are each past a masked key block before the message
comes, and the message reaches the inner one in pieces of any length. What the standard defines is
said of one message as a whole: two nested hashes behind a key that is padded to a block and masked.
`hmacParts_is_standard` says that they are the same, for keys of every length and for every way to
cut a message, also across the blocks of the hash or into pieces of which some are empty. The pieces
come together in the hasher (`Hasher.update_update`), which neither end of the protocol has to know.
-/

namespace Scram

/-- A mask of one octet changes every octet alike. -/
theorem xorOctets_replicate (b : Bytes) (mask : UInt8) :
    xorOctets b (List.replicate b.length mask) = b.map (· ^^^ mask) := by
  induction b with
  | nil => rfl
  | cons o b ih =>
    rw [List.length_cons, List.replicate_succ, List.map_cons, ← ih]
    rfl

namespace Algorithm

/-- An algorithm's keyed hash of one message is that of its hash function. -/
theorem hmac_eq (a : Algorithm) (key message : Bytes) :
    a.hmac key message = Scram.hmac a.function key message := by
  rw [hmac, hmacParts, Hmac.Key.sign_eq, List.flatten_singleton]

/-- The blocks of the three hash functions, as the standard has them. -/
theorem blockSize_function (a : Algorithm) :
    a.function.blockSize = if a = .sha512 then 128 else 64 := by
  cases a <;> rfl

/-- **The keyed hash of pieces is the standard's keyed hash of what they are put together.** The key
is hashed first where it is longer than a block, and padded with zeros to a block; the result is the
hash of the block under one mask and, behind it, the hash of the block under the other mask with the
whole message behind it. It is as long as a digest. -/
theorem hmacParts_is_standard (a : Algorithm) (key : Bytes) (parts : List Bytes) :
    let size := if a = .sha512 then 128 else 64
    let short := if key.length ≤ size then key else a.hash key
    let block := short ++ List.replicate (size - short.length) 0
    block.length = size ∧
    a.hmacParts key parts =
      a.hash (xorOctets block (List.replicate size 0x5c) ++
        a.hash (xorOctets block (List.replicate size 0x36) ++ parts.flatten)) ∧
    (a.hmacParts key parts).length = a.digestSize ∧
    a.hmacParts key parts = a.hmac key parts.flatten := by
  intro size short block
  have padded : block = a.function.keyBlock key := by
    rw [HashFunction.keyBlock, a.blockSize_function]
    rfl
  have full : block.length = size := by
    rw [padded, HashFunction.length_keyBlock, a.blockSize_function]
  have masked (mask : UInt8) : xorOctets block (List.replicate size mask) = block.map (· ^^^ mask) := by
    rw [← full]
    exact xorOctets_replicate block mask
  refine ⟨full, ?_, a.length_hmacParts key parts, a.hmacParts_eq key parts⟩
  rw [hmacParts_eq, hmac_eq, masked, masked, padded]
  rfl

example : sha1.hmacParts (utf8 "foo") [utf8 "foo", [], utf8 "bar"] =
    [0xa4, 0xee, 0xba, 0x8e, 0x63, 0x3d, 0x77, 0x88, 0x69, 0xf5, 0x68, 0xd0, 0x5a, 0x1b, 0x3d, 0xc7,
      0x2b, 0xfd, 0x04, 0xdd] := by
  decide +kernel

end Algorithm

end Scram
