import Scram.Nonce

/-!
# Nonces in text

Readers check a nonce octet by octet. On a text that comes to the same as checking it character by
character (`isNonce_utf8_iff`): no octet of a character beyond ASCII is allowed in a nonce.
-/

namespace Scram

/-- Two nonces one after another are a nonce, which is how a server extends that of its client. -/
theorem isNonce_append {a b : Bytes} (ha : isNonce a) (hb : isNonce b) : isNonce (a ++ b) := by
  rw [isNonce_iff] at ha hb ⊢
  refine ⟨List.append_ne_nil_of_left_ne_nil ha.1 b, ?_⟩
  intro o mem
  rcases List.mem_append.mp mem with mem | mem
  · exact ha.2 o mem
  · exact hb.2 o mem

theorem isNonceOctet_ofNat_iff {n : Nat} (small : n < 256) :
    isNonceOctet (UInt8.ofNat n) ↔ 33 ≤ n ∧ n ≤ 126 ∧ n ≠ 44 := by
  rw [isNonceOctet_iff, UInt8.toNat_ofNat', Nat.mod_eq_of_lt small]

/-- A character has only allowed octets exactly if it is visible ASCII and not the comma. -/
theorem isNonceOctet_utf8EncodeChar_iff (c : Char) :
    (∀ o ∈ String.utf8EncodeChar c, isNonceOctet o) ↔ '!' ≤ c ∧ c ≤ '~' ∧ c ≠ ',' := by
  have code : ('!' ≤ c ∧ c ≤ '~' ∧ c ≠ ',') ↔
      33 ≤ c.val.toNat ∧ c.val.toNat ≤ 126 ∧ c.val.toNat ≠ 44 := by
    rw [Char.le_def, Char.le_def, UInt32.le_iff_toNat_le, UInt32.le_iff_toNat_le, ne_eq,
      Char.ext_iff, ← UInt32.toNat_inj]
    rfl
  have refused {n : Nat} {l : Bytes} (low : 0x80 ≤ n) (high : n < 256) :
      ¬∀ o ∈ UInt8.ofNat n :: l, isNonceOctet o := by
    intro allowed
    have inRange := (isNonceOctet_ofNat_iff high).mp (allowed _ List.mem_cons_self)
    omega
  rw [code]
  -- one case for each length of the encoding; all but the shortest begin with an octet above 127
  fun_cases String.utf8EncodeChar c with
  | case1 v small =>
    rw [List.forall_mem_singleton]
    exact isNonceOctet_ofNat_iff (by omega)
  | case2 v _ _ => exact iff_of_false (refused (by omega) (by omega)) (by omega)
  | case3 v _ _ _ => exact iff_of_false (refused (by omega) (by omega)) (by omega)
  | case4 v _ _ _ => exact iff_of_false (refused (by omega) (by omega)) (by omega)

/-- **A text is a nonce** where it is not empty and has visible ASCII characters only, and no comma. -/
theorem isNonce_utf8_iff (s : String) :
    isNonce (utf8 s) ↔ s ≠ "" ∧ ∀ c ∈ s.toList, '!' ≤ c ∧ c ≤ '~' ∧ c ≠ ',' := by
  have empty : utf8 s = [] ↔ s = "" := by
    constructor
    · intro none
      apply utf8_injective
      rw [none]
      rfl
    · rintro rfl
      rfl
  simp only [isNonce, Bool.and_eq_true, Bool.not_eq_true', List.isEmpty_eq_false_iff, ne_eq, empty,
    List.all_eq_true]
  apply and_congr_right
  intro
  constructor
  · intro allowed c mem
    apply (isNonceOctet_utf8EncodeChar_iff c).mp
    intro o inChar
    exact allowed o (List.mem_flatMap.mpr ⟨c, mem, inChar⟩)
  · intro allowed o mem
    obtain ⟨c, inText, inChar⟩ := List.mem_flatMap.mp mem
    exact (isNonceOctet_utf8EncodeChar_iff c).mpr (allowed c inText) o inChar

/-- A nonce remains one with visible characters behind it, or with nothing. -/
theorem isNonce_utf8_append {s added : String} (nonce : isNonce (utf8 s))
    (visible : ∀ c ∈ added.toList, '!' ≤ c ∧ c ≤ '~' ∧ c ≠ ',') : isNonce (utf8 (s ++ added)) := by
  rw [isNonce_utf8_iff] at nonce ⊢
  refine ⟨mt (fun empty => (String.append_eq_empty_iff.mp empty).1) nonce.1, ?_⟩
  intro c mem
  rw [String.toList_append, List.mem_append] at mem
  exact mem.elim (nonce.2 c) (visible c)

end Scram
