import Mathlib.Data.Set.Card
import Mathlib.Order.Interval.Finset.Nat
import Scram.Proofs.Grammar.Nonce

/-!
# What random words pick

Each character of a nonce is picked by one random word. A word has 4294967296 values, and neither 93
nor 62 divides that number, so some words have to be passed over for the others to be fair.
`picks_unbiased` counts them: whatever the character is, as many words pick it as any other.

The words that pick an octet follow one another without a gap (`Consecutive`), so what is counted is
the length of a run. For the server it is that of the words which agree in their six highest bits. For
the client it is the number of multiples of 93 in a window of 4294967292 numbers, which is the same for
every window because 93 divides its length (`scaled_iff`). The words that the client passes over follow
no order and are counted apart: multiplying by 93 moves no two words to one place, so there are as many
of them as places behind a window (`ncard_client_none`).

Nothing is said of how the words themselves are distributed.
-/

namespace Scram.Nonce

/-- Exactly the words of a run of `count` numbers are such, and all these numbers are words. -/
def Consecutive (count : Nat) (p : UInt32 → Prop) : Prop :=
  ∃ first, first + count ≤ 4294967296 ∧ ∀ word, p word ↔
    first ≤ word.toNat ∧ word.toNat < first + count

/-- There are as many words in a run as the run is long. -/
theorem Consecutive.ncard {count : Nat} {p : UInt32 → Prop} (h : Consecutive count p) :
    {word | p word}.ncard = count := by
  obtain ⟨first, fits, inside⟩ := h
  have numbers : UInt32.toNat '' {word | p word} = Finset.Ico first (first + count) := by
    ext n
    simp only [Set.mem_image, Set.mem_ofPred, Finset.coe_Ico, Set.mem_Ico, inside]
    constructor
    · rintro ⟨word, within, rfl⟩
      exact within
    · intro within
      have value : (UInt32.ofNat n).toNat = n :=
        UInt32.toNat_ofNat_of_lt (Nat.lt_of_lt_of_le within.2 fits)
      exact ⟨UInt32.ofNat n, by rwa [value], value⟩
  rw [← Set.ncard_image_of_injective _ (fun _ _ => UInt32.toNat_inj.mp), numbers,
    Set.ncard_coe_finset, Nat.card_Ico, Nat.add_sub_cancel_left]

/-- Where the allowed octets are picked by runs of one length, and no other is picked, all of them are
picked alike. -/
theorem ncard_picks {octet? : UInt32 → Option UInt8} {count : Nat} {allowed : UInt8 → Prop}
    [DecidablePred allowed] (only : ∀ word o, octet? word = some o → allowed o)
    (alike : ∀ o, allowed o → Consecutive count (octet? · = some o)) (o : UInt8) :
    {word | octet? word = some o}.ncard = if allowed o then count else 0 := by
  split
  · next inside => exact (alike o inside).ncard
  · next outside =>
    have never (word : UInt32) : octet? word ≠ some o := mt (only word o) outside
    simp only [never, Set.ofPred_false, Set.ncard_empty]

/-! ## The server's words -/

/-- The letters and the digits. -/
def IsAlphanumeric (o : UInt8) : Prop :=
  0x41 ≤ o ∧ o ≤ 0x5a ∨ 0x61 ≤ o ∧ o ≤ 0x7a ∨ 0x30 ≤ o ∧ o ≤ 0x39

instance (o : UInt8) : Decidable (IsAlphanumeric o) :=
  inferInstanceAs (Decidable (_ ∨ _))

theorem isAlphanumeric_iff {o : UInt8} : IsAlphanumeric o ↔
    65 ≤ o.toNat ∧ o.toNat ≤ 90 ∨ 97 ≤ o.toNat ∧ o.toNat ≤ 122 ∨ 48 ≤ o.toNat ∧ o.toNat ≤ 57 := by
  simp only [IsAlphanumeric, UInt8.le_iff_toNat_le, UInt8.reduceToNat]

/-- Words pick nothing but letters and digits for a server. -/
theorem isAlphanumeric_of_serverOctet? {word : UInt32} {o : UInt8} (h : serverOctet? word = some o) :
    IsAlphanumeric o := by
  rw [serverOctet?_eq_some_iff] at h
  rw [isAlphanumeric_iff]
  omega

/-- The words that pick a letter or a digit are those that agree in their six highest bits. -/
theorem consecutive_server {o : UInt8} (h : IsAlphanumeric o) :
    Consecutive 67108864 (serverOctet? · = some o) := by
  simp only [Consecutive, serverOctet?_eq_some_iff]
  rcases isAlphanumeric_iff.mp h with capital | small | digit
  · exact ⟨(o.toNat - 65) * 67108864, by omega, fun word => by omega⟩
  · exact ⟨(o.toNat - 71) * 67108864, by omega, fun word => by omega⟩
  · exact ⟨(o.toNat + 4) * 67108864, by omega, fun word => by omega⟩

/-- The words that pick nothing for a server are the last two groups. -/
theorem consecutive_server_none : Consecutive (2 * 67108864) (serverOctet? · = none) := by
  simp only [Consecutive, serverOctet?_eq_none_iff]
  refine ⟨62 * 67108864, by decide, fun word => ?_⟩
  have bound := word.toNat_lt
  omega

/-! ## The client's words -/

/-- A window of 4294967292 numbers holds as many multiples of 93 wherever it begins. -/
theorem scaled_iff {n i : Nat} :
    n * 93 % 4294967296 ≤ 0xfffffffb ∧ n * 93 / 4294967296 = i ↔
      (i * 4294967296 + 92) / 93 ≤ n ∧ n < (i * 4294967296 + 92) / 93 + 46182444 := by
  have window : n * 93 % 4294967296 ≤ 0xfffffffb ∧ n * 93 / 4294967296 = i ↔
      i * 4294967296 ≤ n * 93 ∧ n * 93 < i * 4294967296 + 93 * 46182444 := by
    constructor
    · rintro ⟨low, rfl⟩
      omega
    · intro inside
      have quotient : n * 93 / 4294967296 = i := Nat.div_eq_of_lt_le (by omega) (by omega)
      exact ⟨by omega, quotient⟩
  rw [window]
  omega

/-- The words that pick an octet of a nonce are those that the scaling moves into its window. -/
theorem consecutive_client {o : UInt8} (h : isNonceOctet o) :
    Consecutive 46182444 (clientOctet? · = some o) := by
  have range := isNonceOctet_iff.mp h
  simp only [Consecutive, clientOctet?_eq_some_iff]
  -- the octets behind the comma have one place less than their number says
  by_cases below : o.toNat < 44
  · refine ⟨((o.toNat - 33) * 4294967296 + 92) / 93, by omega, fun word => ?_⟩
    rw [← scaled_iff]
    apply and_congr_right
    intro
    omega
  · refine ⟨((o.toNat - 34) * 4294967296 + 92) / 93, by omega, fun word => ?_⟩
    rw [← scaled_iff]
    apply and_congr_right
    intro
    omega

/-- Among words 93 has an inverse, which undoes the scaling. -/
theorem unscaled_scaled (word : UInt32) : word * 93 * 1062196213 = word := by
  rw [UInt32.mul_assoc, show (93 : UInt32) * 1062196213 = 1 by decide, UInt32.mul_one]

theorem scaled_unscaled (word : UInt32) : word * 1062196213 * 93 = word := by
  rw [UInt32.mul_assoc, UInt32.mul_comm 1062196213, ← UInt32.mul_assoc, unscaled_scaled]

/-- Scaling moves no two words to one place. -/
theorem scaled_injective : Function.Injective fun word : UInt32 => word * 93 := by
  intro a b same
  rw [← unscaled_scaled a, ← unscaled_scaled b]
  exact congrArg (· * 1062196213) same

/-- The words that are passed over are moved to the four places behind the window. -/
theorem ncard_client_none : {word | clientOctet? word = none}.ncard = 4 := by
  -- these words follow no order, so the places that the scaling moves them to are counted
  have behind : (fun word : UInt32 => word * 93) '' {word | clientOctet? word = none} =
      {place | 4294967292 ≤ place.toNat ∧ place.toNat < 4294967292 + 4} := by
    ext place
    simp only [Set.mem_image, Set.mem_ofPred, clientOctet?_eq_none_iff]
    constructor
    · rintro ⟨word, unpicked, rfl⟩
      rw [UInt32.toNat_mul]
      exact ⟨unpicked, Nat.mod_lt _ (by decide)⟩
    · intro inside
      refine ⟨place * 1062196213, ?_, scaled_unscaled place⟩
      rw [← scaled_unscaled place, UInt32.toNat_mul] at inside
      exact inside.1
  rw [← Set.ncard_image_of_injective _ scaled_injective, behind]
  exact Consecutive.ncard ⟨4294967292, by decide, fun _ => Iff.rfl⟩

/-- **No character is favoured.** Each octet that a client's nonce may have is picked by the same
number of words, and only four words pick none. Each letter and each digit is picked for a server's
nonce by the words that agree in their six highest bits, and the words of two such groups pick none.
No word picks any other octet. -/
theorem picks_unbiased :
    (∀ o, {word | clientOctet? word = some o}.ncard =
      if 0x21 ≤ o ∧ o ≤ 0x7e ∧ o ≠ 0x2c then 46182444 else 0) ∧
    {word | clientOctet? word = none}.ncard = 4 ∧
    (∀ o, {word | serverOctet? word = some o}.ncard = if IsAlphanumeric o then 67108864 else 0) ∧
    {word | serverOctet? word = none}.ncard = 2 * 67108864 := by
  have allowed {o : UInt8} : isNonceOctet o ↔ 0x21 ≤ o ∧ o ≤ 0x7e ∧ o ≠ 0x2c := by
    simp only [isNonceOctet, Bool.and_eq_true, decide_eq_true_eq, and_assoc]
  refine ⟨?_, ncard_client_none, ?_, consecutive_server_none.ncard⟩
  · apply ncard_picks
    · intro word o picked
      exact allowed.mp (isNonceOctet_of_clientOctet? picked)
    · intro o inside
      exact consecutive_client (allowed.mpr inside)
  · apply ncard_picks
    · intro word o picked
      exact isAlphanumeric_of_serverOctet? picked
    · intro o inside
      exact consecutive_server inside

end Scram.Nonce
