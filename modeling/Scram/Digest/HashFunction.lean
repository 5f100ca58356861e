import Scram.Blocks
import Scram.Octets

/-!
# Iterated hash functions

A hash function that pads its message to full blocks and folds a compression over them. The
standard's own description is `HashFunction.hash`: pad the whole message, cut it into blocks,
compress them in order, write the last state out. Nothing but the shape of the parameters is
assumed of the compression, so what is proved of `hash` holds of every member of the family.
-/

namespace Scram

/-- The parameters of an iterated hash function. -/
structure HashFunction where
  /-- How many octets one compression takes. -/
  blockSize : Nat
  /-- How many octets of the padding hold the length of the message. -/
  lengthSize : Nat
  /-- How many octets a digest has. -/
  digestSize : Nat
  State : Type
  initial : State
  compress : State → Bytes → State
  /-- The digest that a final state stands for. -/
  digest : State → Bytes
  blockSize_pos : 0 < blockSize
  digestSize_le_blockSize : digestSize ≤ blockSize
  length_digest : ∀ state, (digest state).length = digestSize

namespace HashFunction

variable (f : HashFunction)

/-- How many zeros pad a message of this length: the fewest that complete a block. -/
def zeros (length : Nat) : Nat :=
  (f.blockSize - (length + 1 + f.lengthSize) % f.blockSize) % f.blockSize

/-- What follows a message of this length: a one bit, zeros, and the length in bits. -/
def padding (length : Nat) : Bytes :=
  0x80 :: List.replicate (f.zeros length) 0 ++ bigEndian f.lengthSize (8 * length)

/-- The digest of a message. -/
def hash (message : Bytes) : Bytes :=
  f.digest ((blocks f.blockSize (message ++ f.padding message.length)).foldl f.compress f.initial)

@[simp] theorem length_hash (message : Bytes) : (f.hash message).length = f.digestSize :=
  f.length_digest _

end HashFunction

end Scram
