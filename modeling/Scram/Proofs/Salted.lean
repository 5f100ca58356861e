import Scram.Pbkdf2
import Scram.Proofs.Hmac
import Scram.Proofs.KeyChain

/-!
# The salted password as a derived key

The salted password is computed by a loop that carries two values along, the latest keyed hash and
the exclusive or of all so far (`Salted.chain`). The loop is related to the chain of the general
derivation with both values general (`Salted.chain_eq`); from there the salted password is the first
block, for every count (`saltedPassword_eq`), and the whole of a derived key as long as one digest.
-/

namespace Scram

variable {f : HashFunction}

/-- The loop stands at link `done` of the chain: it adds the next `count` links to the sum. -/
theorem Salted.chain_eq (password seed : Bytes) (count done : Nat) (sum : Bytes) :
    Salted.chain (.ofBytes password : Hmac.Key f) count
        (Pbkdf2.link (hmac f) password seed done) sum =
      ((List.range' (done + 1) count).map (Pbkdf2.link (hmac f) password seed)).foldl
        xorOctets sum := by
  induction count generalizing done sum with
  | zero => rfl
  | succ count ih =>
    -- one turn of the loop makes the next link
    have next : (Hmac.Key.ofBytes password : Hmac.Key f).sign
        [Pbkdf2.link (hmac f) password seed done] =
          Pbkdf2.link (hmac f) password seed (done + 1) := by
      rw [Hmac.Key.sign_eq, List.flatten_singleton]
      rfl
    rw [Salted.chain, next, ih, List.range'_succ, List.map_cons, List.foldl_cons]

/-- The salted password is the first block of the derivation. -/
theorem saltedPassword_eq (password salt : Bytes) (count : IterationCount) :
    saltedPassword f password salt count =
      Pbkdf2.block (hmac f) password salt count.toNat 1 := by
  let link := Pbkdf2.link (hmac f) password (salt ++ Salted.blockIndex)
  have first : (Hmac.Key.ofBytes password : Hmac.Key f).sign [salt, Salted.blockIndex] =
      link 1 := by
    rw [Hmac.Key.sign_eq, List.flatten_cons, List.flatten_singleton]
    rfl
  have positive : count.toNat = count.toNat - 1 + 1 := (Nat.sub_add_cancel count.pos).symm
  calc saltedPassword f password salt count
    _ = Salted.chain (.ofBytes password) (count.toNat - 1) (link 1) (link 1) := by
      rw [saltedPassword, first]
    _ = ((List.range' 2 (count.toNat - 1)).map link).foldl xorOctets (link 1) :=
      Salted.chain_eq ..
    _ = Pbkdf2.xorAll ((List.range' 1 (count.toNat - 1 + 1)).map link) := by
      rw [List.range'_succ, List.map_cons, Pbkdf2.xorAll]
    _ = Pbkdf2.block (hmac f) password salt count.toNat 1 := by
      rw [← positive]
      rfl

namespace Algorithm

/-- **The salted password is the exclusive or of a chain of keyed hashes, and the key that
password-based derivation makes with the same hash.** Each hash of the chain is keyed with the
password. The first is of the salt with the octets 0, 0, 0, 1 behind it, each further one of the one
before, and there are as many as the count says. The result is as long as one digest; as a derived
key it is the whole of the block with number one, of which nothing is cut off. -/
theorem saltOctets_is_derived_key (a : Algorithm) (password salt : Bytes) (count : IterationCount) :
    (∃ u : Nat → Bytes,
      u 1 = a.hmac password (salt ++ [0, 0, 0, 1]) ∧
      (∀ k ≥ 1, u (k + 1) = a.hmac password (u k)) ∧
      a.saltOctets password salt count = Pbkdf2.xorAll ((List.range' 1 count.toNat).map u)) ∧
    (a.saltOctets password salt count).length = a.digestSize ∧
    Pbkdf2.derive? a.hmac a.digestSize password salt count.toNat a.digestSize =
      some (a.saltOctets password salt count) ∧
    a.saltOctets password salt count = Pbkdf2.block a.hmac password salt count.toNat 1 := by
  have keyed : Scram.hmac a.function = a.hmac := by
    funext key message
    exact (a.hmac_eq key message).symm
  have derived : a.saltOctets password salt count =
      Pbkdf2.block a.hmac password salt count.toNat 1 := by
    rw [← keyed]
    exact saltedPassword_eq ..
  have full : (a.saltOctets password salt count).length = a.digestSize :=
    length_saltedPassword ..
  refine ⟨⟨Pbkdf2.link a.hmac password (salt ++ bigEndian 4 1), rfl, fun _ _ => rfl, derived⟩,
    full, ?_, derived⟩
  rw [derived] at full ⊢
  exact Pbkdf2.derive?_width a.digestSize_pos full

end Algorithm

end Scram
