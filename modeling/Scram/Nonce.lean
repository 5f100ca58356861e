import Scram.Octets

/-!
# Nonces

What a nonce looks like, and how one is drawn from a source of random words. A source is the
list of words it hands out first; after them it hands out zeros for ever. Each character takes
one word, except that a word which would favour some characters is passed over.
-/

namespace Scram

/-- The octets that a nonce consists of: visible ASCII without the comma. -/
def isNonceOctet (o : UInt8) : Bool := 0x21 ≤ o && o ≤ 0x7e && o ≠ 0x2c

/-- At least one octet, and each one allowed in a nonce. -/
def isNonce (b : Bytes) : Bool := !b.isEmpty && b.all isNonceOctet

/-- The rule of the grammar: at least one octet, and all of them visible ASCII other than the
comma. -/
theorem isNonce_iff {b : Bytes} :
    isNonce b ↔ b ≠ [] ∧ ∀ o ∈ b, 0x21 ≤ o ∧ o ≤ 0x7e ∧ o ≠ 0x2c := by
  simp [isNonce, isNonceOctet, and_assoc]

/-- The allowed octets by number, which is how drawing reaches them. -/
theorem isNonceOctet_iff {o : UInt8} :
    isNonceOctet o ↔ 33 ≤ o.toNat ∧ o.toNat ≤ 126 ∧ o.toNat ≠ 44 := by
  simp only [isNonceOctet, Bool.and_eq_true, decide_eq_true_eq, UInt8.le_iff_toNat_le, ne_eq,
    ← UInt8.toNat_inj, UInt8.reduceToNat, and_assoc]

/-- A nonce as the message grammar has it. -/
structure Nonce where
  text : String
  isNonce_text : isNonce (utf8 text)

namespace Nonce

def ofText? (text : String) : Option Nonce :=
  if h : isNonce (utf8 text) then some ⟨text, h⟩ else none

/-! ## Drawing -/

/-- Draws `count` octets from a source of words, by what `octet?` makes of a word; words of
which it makes nothing are passed over. -/
def draw (octet? : UInt32 → Option UInt8) : (count : Nat) → (words : List UInt32) → Bytes
  | 0, _ => []
  | count + 1, [] => List.replicate (count + 1) ((octet? 0).getD 0)
  | count + 1, word :: words =>
    match octet? word with
    | some o => o :: draw octet? count words
    | none => draw octet? (count + 1) words

/-- Whatever holds of every octet that a word can pick holds of every octet drawn, since the zeros
behind the words pick one too. -/
theorem draw_ind {octet? : UInt32 → Option UInt8} {p : UInt8 → Prop}
    (allowed : ∀ word o, octet? word = some o → p o) (zero : (octet? 0).isSome)
    (count : Nat) (words : List UInt32) : ∀ o ∈ draw octet? count words, p o := by
  -- by induction on the words, each of which is used up whether or not it picks an octet
  obtain ⟨z, hz⟩ := Option.isSome_iff_exists.1 zero
  induction words generalizing count with
  | nil =>
    cases count with
    | zero => simp [draw]
    | succ count => simpa [draw, hz] using allowed 0 z hz
  | cons word words ih =>
    cases count with
    | zero => simp [draw]
    | succ count =>
      rw [draw]
      split
      · next o ho => simpa using ⟨allowed word o ho, ih count⟩
      · exact ih (count + 1)

/-- Words that are passed over cost nothing: as many octets are drawn as were asked for. -/
@[simp] theorem length_draw (octet? : UInt32 → Option UInt8) (count : Nat) (words : List UInt32) :
    (draw octet? count words).length = count := by
  induction words generalizing count with
  | nil => cases count <;> simp [draw]
  | cons word words ih =>
    cases count with
    | zero => simp [draw]
    | succ count =>
      rw [draw]
      split <;> simp [ih]

/-- The octet of a client's nonce that a word picks: the word scaled to the 93 allowed octets.
Where the scaling wraps into the uneven end of its range the word picks none. -/
def clientOctet? (word : UInt32) : Option UInt8 :=
  let scaled := word.toNat * 93
  if scaled % 4294967296 > 0xfffffffb then none
  else
    let o := 0x21 + scaled / 4294967296
    some (UInt8.ofNat (if o < 0x2c then o else o + 1))

/-- The octet of a server's nonce that a word picks by its six highest bits: a letter or a digit.
The two numbers beyond the digits pick none. -/
def serverOctet? (word : UInt32) : Option UInt8 :=
  let n := word.toNat / 67108864
  if n < 26 then some (UInt8.ofNat (n + 65))
  else if n < 52 then some (UInt8.ofNat (n + 71))
  else if n < 62 then some (UInt8.ofNat (n - 4))
  else none

/-- Numbers below 256 and the octets they make stand for each other. -/
theorem some_ofNat_eq_some_iff {n : Nat} (small : n < 256) {o : UInt8} :
    some (UInt8.ofNat n) = some o ↔ n = o.toNat := by
  rw [Option.some.injEq, ← UInt8.toNat_inj, UInt8.toNat_ofNat', Nat.mod_eq_of_lt small]

/-- The octets before the comma are numbered without a gap, and so are those behind it. -/
theorem clientOctet?_eq_some_iff {word : UInt32} {o : UInt8} :
    clientOctet? word = some o ↔
      let n := word.toNat * 93 / 4294967296
      word.toNat * 93 % 4294967296 ≤ 0xfffffffb ∧
        (n < 11 ∧ o.toNat = n + 33 ∨ 11 ≤ n ∧ o.toNat = n + 34) := by
  have bound := word.toNat_lt
  simp only [clientOctet?]
  split
  · simp only [reduceCtorEq, false_iff]
    omega
  · split
    · rw [some_ofNat_eq_some_iff (by omega)]
      omega
    · rw [some_ofNat_eq_some_iff (by omega)]
      omega

/-- A word is passed over exactly where its scaling leaves one of the four highest remainders. -/
theorem clientOctet?_eq_none_iff {word : UInt32} :
    clientOctet? word = none ↔ 4294967292 ≤ word.toNat * 93 % 4294967296 := by
  simp only [clientOctet?]
  split
  · simp only [true_iff]
    omega
  · simp only [reduceCtorEq, false_iff]
    omega

/-- Capitals, small letters and digits are numbered one after another. -/
theorem serverOctet?_eq_some_iff {word : UInt32} {o : UInt8} :
    serverOctet? word = some o ↔
      let n := word.toNat / 67108864
      n < 26 ∧ o.toNat = n + 65 ∨ 26 ≤ n ∧ n < 52 ∧ o.toNat = n + 71 ∨
        52 ≤ n ∧ n < 62 ∧ o.toNat = n - 4 := by
  simp only [serverOctet?]
  split
  · rw [some_ofNat_eq_some_iff (by omega)]
    omega
  · split
    · rw [some_ofNat_eq_some_iff (by omega)]
      omega
    · split
      · rw [some_ofNat_eq_some_iff (by omega)]
        omega
      · simp only [reduceCtorEq, false_iff]
        omega

/-- A word is passed over from the number behind the last digit on. -/
theorem serverOctet?_eq_none_iff {word : UInt32} :
    serverOctet? word = none ↔ 62 * 67108864 ≤ word.toNat := by
  simp only [serverOctet?]
  split
  · simp only [reduceCtorEq, false_iff]
    omega
  · split
    · simp only [reduceCtorEq, false_iff]
      omega
    · split
      · simp only [reduceCtorEq, false_iff]
        omega
      · simp only [true_iff]
        omega

/-- A client draws nothing but octets that are allowed in a nonce: the comma is stepped over. -/
theorem isNonceOctet_of_clientOctet? {word : UInt32} {o : UInt8} (h : clientOctet? word = some o) :
    isNonceOctet o := by
  have bound := word.toNat_lt
  rw [clientOctet?_eq_some_iff] at h
  rw [isNonceOctet_iff]
  omega

/-- A server draws nothing but octets that are allowed in a nonce. -/
theorem isNonceOctet_of_serverOctet? {word : UInt32} {o : UInt8} (h : serverOctet? word = some o) :
    isNonceOctet o := by
  rw [serverOctet?_eq_some_iff] at h
  rw [isNonceOctet_iff]
  omega

/-- What is allowed in a nonce is ASCII. -/
theorem lt_of_isNonceOctet {o : UInt8} (h : isNonceOctet o) : o < 128 := by
  simp only [isNonceOctet, Bool.and_eq_true, decide_eq_true_eq] at h
  exact UInt8.lt_of_le_of_lt h.1.2 (by decide)

/-- The text of octets that are allowed in a nonce. -/
def ofOctets (b : Bytes) (nonempty : b ≠ []) (allowed : ∀ o ∈ b, isNonceOctet o) : Nonce where
  text := asciiText b
  isNonce_text := by
    rw [utf8_asciiText fun o ho => lt_of_isNonceOctet (allowed o ho)]
    simpa [isNonce, nonempty] using allowed

theorem draw_ne_nil {octet? : UInt32 → Option UInt8} {count : Nat} (pos : 0 < count)
    (words : List UInt32) : draw octet? count words ≠ [] := by
  rw [← List.length_pos_iff, length_draw]
  exact pos

/-- A client's nonce: 24 characters. -/
def client (words : List UInt32) : Nonce :=
  ofOctets (draw clientOctet? 24 words) (draw_ne_nil (by decide) words)
    (draw_ind (fun _ _ => isNonceOctet_of_clientOctet?) (by decide) 24 words)

/-- A server's nonce: 20 letters and digits. -/
def server (words : List UInt32) : Nonce :=
  ofOctets (draw serverOctet? 20 words) (draw_ne_nil (by decide) words)
    (draw_ind (fun _ _ => isNonceOctet_of_serverOctet?) (by decide) 20 words)

end Nonce

end Scram
