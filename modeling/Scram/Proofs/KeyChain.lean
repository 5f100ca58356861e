import Scram.KeyChain

/-!
# Sizes along the key chain

Every key, proof and signature is as long as one digest, so no exclusive or along the chain cuts
anything off and none of them is empty. A proof and the key in it therefore determine each other
(`eq_clientProof_iff`).
-/

namespace Scram

namespace Salted

variable {f : HashFunction}

/-- Every link is as long as a digest, and adding one to the sum keeps its length. -/
theorem length_chain (key : Hmac.Key f) (count : Nat) (link sum : Bytes)
    (full : sum.length = f.digestSize) : (chain key count link sum).length = f.digestSize := by
  induction count generalizing link sum with
  | zero => exact full
  | succ count ih =>
    refine ih _ _ ?_
    rw [length_xorOctets, full, Hmac.Key.length_sign, Nat.min_self]

end Salted

@[simp] theorem length_saltedPassword (f : HashFunction) (password salt : Bytes)
    (count : IterationCount) : (saltedPassword f password salt count).length = f.digestSize :=
  Salted.length_chain _ _ _ _ (Hmac.Key.length_sign _ _)

namespace Algorithm

variable (a : Algorithm)

/-- The sizes of the three digests, as the standard has them. -/
theorem digestSize_eq : a.digestSize = if a = .sha1 then 20 else if a = .sha256 then 32 else 64 := by
  cases a <;> rfl

theorem digestSize_pos : 0 < a.digestSize := by
  cases a <;> decide

@[simp] theorem length_saltText (password : String) (salt : Bytes) (count : IterationCount) :
    (a.saltText password salt count).length = a.digestSize :=
  length_saltedPassword _ _ _ _

@[simp] theorem length_clientKey (saltedPassword : Bytes) :
    (a.clientKey saltedPassword).length = a.digestSize :=
  a.length_hmac _ _

@[simp] theorem length_storedKey (clientKey : Bytes) :
    (a.storedKey clientKey).length = a.digestSize :=
  a.length_hash _

/-- A proof is as long as a digest: its mask reaches over all of the key. -/
theorem length_clientProof {clientKey : Bytes} (full : clientKey.length = a.digestSize)
    (storedKey : Bytes) (transcript : List Bytes) :
    (a.clientProof clientKey storedKey transcript).length = a.digestSize := by
  rw [clientProof, length_xorOctets, full, length_hmacParts, Nat.min_self]

/-- A proof is right exactly if it is as long as a digest and the signature, taken off it, leaves the
client's key. -/
theorem eq_clientProof_iff {clientKey proof : Bytes} (full : clientKey.length = a.digestSize)
    (storedKey : Bytes) (transcript : List Bytes) :
    proof = a.clientProof clientKey storedKey transcript ↔
      proof.length = a.digestSize ∧ xorOctets proof (a.hmacParts storedKey transcript) = clientKey := by
  have mask := a.length_hmacParts storedKey transcript
  rw [clientProof, eq_xorOctets_iff (full.trans mask.symm), mask]

/-- The proof is the client's key, masked with the signature that its hash makes of all that is
signed. -/
theorem clientProof_evidence (saltedPassword : Bytes) (transcript : List Bytes) :
    (a.evidence saltedPassword transcript).clientProof =
      xorOctets (a.clientKey saltedPassword)
        (a.hmac (a.hash (a.clientKey saltedPassword)) transcript.flatten) := by
  rw [← hmacParts_eq]
  rfl

theorem length_clientProof_evidence (saltedPassword : Bytes) (transcript : List Bytes) :
    (a.evidence saltedPassword transcript).clientProof.length = a.digestSize :=
  a.length_clientProof (a.length_clientKey _) _ _

/-- What is as long as a digest is not empty. -/
theorem ne_nil_of_length_eq {b : Bytes} (full : b.length = a.digestSize) : b ≠ [] := by
  rw [← List.length_pos_iff, full]
  exact a.digestSize_pos

/-- A salted password is never empty, so no server takes it for a missing one. -/
theorem saltText_ne_nil (password : String) (salt : Bytes) (count : IterationCount) :
    a.saltText password salt count ≠ [] :=
  a.ne_nil_of_length_eq (a.length_saltText _ _ _)

/-- The proof that a client sends is never empty. -/
theorem clientProof_evidence_ne_nil (saltedPassword : Bytes) (transcript : List Bytes) :
    (a.evidence saltedPassword transcript).clientProof ≠ [] :=
  a.ne_nil_of_length_eq (a.length_clientProof_evidence _ _)

end Algorithm

end Scram
