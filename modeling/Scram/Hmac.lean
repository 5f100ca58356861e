import Scram.Digest.Hasher

/-!
# Keyed hashing

HMAC over any hash function. The definition to reason from is `hmac`: two nested hashes of the
whole message behind the padded key. What runs is a `Hmac.Key`, two hashers that have taken the
padded key in already and are reused for every message under it; `Hmac.Key.sign_eq` says that
it signs any pieces as `hmac` signs their concatenation.
-/

namespace Scram

variable {f : HashFunction}

/-- A key as one block: hashed first when it is longer, then filled up with zeros. -/
def HashFunction.keyBlock (f : HashFunction) (key : Bytes) : Bytes :=
  let short := if key.length ≤ f.blockSize then key else f.hash key
  short ++ List.replicate (f.blockSize - short.length) 0

/-- Short keys are filled up and long ones hashed: either way a key is one block. -/
@[simp] theorem HashFunction.length_keyBlock (f : HashFunction) (key : Bytes) :
    (f.keyBlock key).length = f.blockSize := by
  have fits := f.digestSize_le_blockSize
  unfold HashFunction.keyBlock
  split <;> simp <;> omega

namespace Hmac

/-- The key block under the mask of the inner hash. -/
def innerBlock (f : HashFunction) (key : Bytes) : Bytes := (f.keyBlock key).map (· ^^^ 0x36)

/-- The key block under the mask of the outer hash. -/
def outerBlock (f : HashFunction) (key : Bytes) : Bytes := (f.keyBlock key).map (· ^^^ 0x5c)

end Hmac

/-- The keyed hash of a message. -/
def hmac (f : HashFunction) (key message : Bytes) : Bytes :=
  f.hash (Hmac.outerBlock f key ++ f.hash (Hmac.innerBlock f key ++ message))

namespace Hmac

/-- A key in use: both hashes, each past its key block. -/
structure Key (f : HashFunction) where
  inner : Hasher f
  outer : Hasher f

namespace Key

def ofBytes (key : Bytes) : Key f where
  inner := Hasher.start.update (innerBlock f key)
  outer := Hasher.start.update (outerBlock f key)

/-- The keyed hash of the pieces one after another. -/
def sign (key : Key f) (parts : List Bytes) : Bytes :=
  (key.outer.update (parts.foldl Hasher.update key.inner).finish).finish

@[simp] theorem length_sign (key : Key f) (parts : List Bytes) :
    (key.sign parts).length = f.digestSize :=
  Hasher.length_finish _

/-- The hashers that a key keeps sign any pieces as the definition signs what they are put
together. -/
theorem sign_eq (key : Bytes) (parts : List Bytes) :
    (ofBytes (f := f) key).sign parts = hmac f key parts.flatten := by
  simp only [sign, ofBytes, Hasher.foldl_update, Hasher.update_update, Hasher.finish_update_start,
    hmac]

end Key

end Hmac

end Scram
