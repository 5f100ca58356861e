import Scram.Hmac
import Scram.IterationCount

/-!
# Salted passwords

The function that turns a password, a salt and an iteration count into the secret both ends
derive their keys from: the exclusive or of a chain of keyed hashes, each of the one before.
It is the first block of the password-based derivation of a key as long as one digest.
-/

namespace Scram

variable {f : HashFunction}

namespace Salted

/-- The number of the one block that is derived, as it follows the salt. -/
def blockIndex : Bytes := bigEndian 4 1

/-- Adds `count` further links of the chain, of which `link` is the latest, to `sum`. -/
def chain (key : Hmac.Key f) : (count : Nat) → (link sum : Bytes) → Bytes
  | 0, _, sum => sum
  | count + 1, link, sum =>
    let next := key.sign [link]
    chain key count next (xorOctets sum next)

end Salted

/-- The salted password. -/
def saltedPassword (f : HashFunction) (password salt : Bytes) (count : IterationCount) : Bytes :=
  let key : Hmac.Key f := .ofBytes password
  let first := key.sign [salt, Salted.blockIndex]
  Salted.chain key (count.toNat - 1) first first

end Scram
