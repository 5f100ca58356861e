import Scram.Base64
import Scram.Proofs.Grammar.Commas

/-!
# Base 64 as a written form

What is written in base 64 reads back as what it was (`decode?_encode`), and nothing else reads as
it but the same symbols with less padding (`decode?_eq_some_iff`). The written form is taken apart
into the numbers below 64 whose symbols it shows (`digits`) and the padding behind them; reading
undoes the two apart. No symbol is a comma, so the value of an attribute that is written so ends
where it should (`comma_not_mem_encode`).
-/

namespace Scram.Base64

/-- The numbers below 64 whose symbols write an octet string. -/
def digits : Bytes → List Nat
  | a :: b :: c :: rest =>
    a.toNat / 4 :: (a.toNat % 4 * 16 + b.toNat / 16) :: (b.toNat % 16 * 4 + c.toNat / 64)
      :: c.toNat % 64 :: digits rest
  | [a, b] => [a.toNat / 4, a.toNat % 4 * 16 + b.toNat / 16, b.toNat % 16 * 4]
  | [a] => [a.toNat / 4, a.toNat % 4 * 16]
  | [] => []

theorem digits_lt (b : Bytes) : ∀ n ∈ digits b, n < 64 := by
  induction b using digits.induct with
  | case1 a b c rest ih =>
    have ha := a.toNat_lt
    have hb := b.toNat_lt
    have hc := c.toNat_lt
    simp only [digits, List.forall_mem_cons]
    exact ⟨by omega, by omega, by omega, by omega, ih⟩
  | case2 a b =>
    have ha := a.toNat_lt
    have hb := b.toNat_lt
    simp only [digits, List.forall_mem_cons, List.not_mem_nil, false_implies, implies_true, and_true]
    exact ⟨by omega, by omega, by omega⟩
  | case3 a =>
    have ha := a.toNat_lt
    simp only [digits, List.forall_mem_cons, List.not_mem_nil, false_implies, implies_true, and_true]
    exact ⟨by omega, by omega⟩
  | case4 => simp [digits]

theorem missing_add_four (n : Nat) : missing (n + 4) = missing n := by
  unfold missing
  omega

/-- The written form is the symbols of the digits, and the padding that completes their last group. -/
theorem encode_eq (b : Bytes) :
    encode b = (digits b).map symbol ++ List.replicate (missing (digits b).length) pad := by
  induction b using digits.induct with
  | case1 a b c rest ih =>
    simp only [encode, digits, ih, List.map_cons, List.length_cons, List.cons_append]
    rw [missing_add_four]
  | case2 a b => rfl
  | case3 a => rfl
  | case4 => rfl

/-! ## Reading back -/

theorem ofNat_eq {n : Nat} {o : UInt8} (h : n = o.toNat) : UInt8.ofNat n = o := by
  rw [h, UInt8.ofNat_toNat]

/-- Reading puts every octet together again from the digits over which its bits were spread. -/
theorem octets?_digits (b : Bytes) : octets? (digits b) = some b := by
  induction b using digits.induct with
  | case1 a b c rest ih =>
    have hb := b.toNat_lt
    have hc := c.toNat_lt
    have first : UInt8.ofNat (a.toNat / 4 * 4 + (a.toNat % 4 * 16 + b.toNat / 16) / 16) = a :=
      ofNat_eq (by omega)
    have second : UInt8.ofNat ((a.toNat % 4 * 16 + b.toNat / 16) % 16 * 16
        + (b.toNat % 16 * 4 + c.toNat / 64) / 4) = b := ofNat_eq (by omega)
    have third : UInt8.ofNat ((b.toNat % 16 * 4 + c.toNat / 64) % 4 * 64 + c.toNat % 64) = c :=
      ofNat_eq (by omega)
    simp only [digits, octets?, ih, Option.map_some, first, second, third]
  | case2 a b =>
    have hb := b.toNat_lt
    have first : UInt8.ofNat (a.toNat / 4 * 4 + (a.toNat % 4 * 16 + b.toNat / 16) / 16) = a :=
      ofNat_eq (by omega)
    have second : UInt8.ofNat ((a.toNat % 4 * 16 + b.toNat / 16) % 16 * 16
        + b.toNat % 16 * 4 / 4) = b := ofNat_eq (by omega)
    simp only [digits, octets?, Nat.mul_mod_left, if_true, first, second]
  | case3 a =>
    have first : UInt8.ofNat (a.toNat / 4 * 4 + a.toNat % 4 * 16 / 16) = a := ofNat_eq (by omega)
    simp only [digits, octets?, Nat.mul_mod_left, if_true, first]
  | case4 => rfl

/-- An octet that stands for no number is the symbol of none. The slash is asked about apart, since
it is also what `symbol` gives for numbers out of range. -/
theorem symbol_ne (n : Nat) {o : UInt8} (foreign : value? o = none) (beyond : o ≠ 47) : symbol n ≠ o := by
  by_cases h : n < 64
  · intro same
    rw [← same, value?_symbol h] at foreign
    contradiction
  · rw [symbol, if_neg (by omega), if_neg (by omega), if_neg (by omega), if_neg (by omega)]
    exact beyond.symm

/-- No symbol is the padding, so the padding ends the symbols. -/
theorem symbol_ne_pad (n : Nat) : symbol n ≠ pad := symbol_ne n (by decide) (by decide)

theorem symbol_ne_comma (n : Nat) : symbol n ≠ comma := symbol_ne n (by decide) (by decide)

/-- A row of symbols is read as the numbers it was written from. -/
theorem mapM_value?_map_symbol {l : List Nat} (small : ∀ n ∈ l, n < 64) :
    (l.map symbol).mapM value? = some l := by
  induction l with
  | nil => rfl
  | cons n l ih =>
    have tail := ih fun k hk => small k (List.mem_cons_of_mem _ hk)
    rw [List.map_cons, List.mapM_cons, value?_symbol (small n List.mem_cons_self), tail]
    rfl

/-- A row of symbols holds no padding. -/
theorem symbols_before_pad (l : List Nat) : ∀ o ∈ l.map symbol, decide (o ≠ pad) = true := by
  intro o h
  obtain ⟨n, -, rfl⟩ := List.mem_map.mp h
  exact decide_eq_true (symbol_ne_pad n)

/-- In front of the padding stand the symbols. -/
theorem takeWhile_symbols (l : List Nat) (k : Nat) :
    (l.map symbol ++ List.replicate k pad).takeWhile (· ≠ pad) = l.map symbol := by
  rw [List.takeWhile_append_of_pos (symbols_before_pad l)]
  cases k <;> simp [List.replicate_succ]

/-- Behind the symbols stands the padding. -/
theorem dropWhile_symbols (l : List Nat) (k : Nat) :
    (l.map symbol ++ List.replicate k pad).dropWhile (· ≠ pad) = List.replicate k pad := by
  rw [List.dropWhile_append_of_pos (symbols_before_pad l)]
  cases k <;> simp [List.replicate_succ]

/-- Symbols with padding behind them, no more than their last group misses, are read by the symbols
alone. -/
theorem decode?_symbols {l : List Nat} (small : ∀ n ∈ l, n < 64) {k : Nat}
    (fits : k ≤ missing l.length) :
    decode? (l.map symbol ++ List.replicate k pad) = octets? l := by
  rw [decode?, takeWhile_symbols, dropWhile_symbols, List.length_map,
    if_pos ⟨by simp, by simpa using fits⟩, mapM_value?_map_symbol small, Option.bind_some]

/-- **Reading undoes writing.** -/
@[simp] theorem decode?_encode (b : Bytes) : decode? (encode b) = some b := by
  rw [encode_eq, decode?_symbols (digits_lt b) (Nat.le_refl _), octets?_digits]

/-! ## What is read -/

/-- Reading is strict about the bits: the digits that are read are those that the octets are written
with. -/
theorem digits_of_octets? {l : List Nat} {octets : Bytes} (small : ∀ n ∈ l, n < 64)
    (read : octets? l = some octets) : digits octets = l := by
  -- one case for each group that reading accepts; the last group of one, and unused bits that are
  -- set, are refused
  fun_induction octets? l generalizing octets with
  | case1 w x y z rest ih =>
    simp only [List.forall_mem_cons] at small
    obtain ⟨hw, hx, hy, hz, smallRest⟩ := small
    obtain ⟨tail, found, rfl⟩ := Option.map_eq_some_iff.mp read
    simp only [digits, ih smallRest found, UInt8.toNat_ofNat', List.cons.injEq, and_true]
    exact ⟨by omega, by omega, by omega, by omega⟩
  | case2 w x y unused =>
    simp only [List.forall_mem_cons] at small
    obtain ⟨hw, hx, hy, -⟩ := small
    cases read
    simp only [digits, UInt8.toNat_ofNat', List.cons.injEq, and_true]
    exact ⟨by omega, by omega, by omega⟩
  | case3 => contradiction
  | case4 w x unused =>
    simp only [List.forall_mem_cons] at small
    obtain ⟨hw, hx, -⟩ := small
    cases read
    simp only [digits, UInt8.toNat_ofNat', List.cons.injEq, and_true]
    exact ⟨by omega, by omega⟩
  | case5 => contradiction
  | case6 => contradiction
  | case7 =>
    cases read
    rfl

/-- A row that is read is the row of symbols of what it is read as. -/
theorem map_symbol_of_mapM_value? {symbols : Bytes} {l : List Nat}
    (read : symbols.mapM value? = some l) : (∀ n ∈ l, n < 64) ∧ symbols = l.map symbol := by
  induction symbols generalizing l with
  | nil =>
    cases read
    simp
  | cons o symbols ih =>
    rw [List.mapM_cons] at read
    obtain ⟨n, first, rest⟩ := Option.bind_eq_some_iff.mp read
    obtain ⟨tail, found, same⟩ := Option.bind_eq_some_iff.mp rest
    cases same
    obtain ⟨small, rfl⟩ := value?_eq_some first
    obtain ⟨smallTail, rfl⟩ := ih found
    exact ⟨List.forall_mem_cons.mpr ⟨small, smallTail⟩, rfl⟩

theorem pad_not_mem_symbols (l : List Nat) : pad ∉ l.map symbol := by
  intro mem
  exact absurd rfl (of_decide_eq_true (symbols_before_pad l pad mem))

/-- The forms that an octet string is read in: the written one, and what is left of it when some of
its padding is cut off, or all. -/
def Spells (written octets : Bytes) : Prop :=
  ∃ cut, written ++ List.replicate cut pad = encode octets

/-- A form, taken apart: the symbols of the digits, and no more padding than their last group
misses. -/
theorem spells_iff {written octets : Bytes} :
    Spells written octets ↔ ∃ k ≤ missing (digits octets).length,
      written = (digits octets).map symbol ++ List.replicate k pad := by
  unfold Spells
  rw [encode_eq]
  constructor
  · intro given
    obtain ⟨cut, same⟩ := given
    rcases List.append_eq_append_iff.mp same with ⟨r, symbols, padding⟩ | ⟨r, rfl, padding⟩
    · -- a cut into the symbols would leave padding among them
      cases r with
      | nil => exact ⟨0, Nat.zero_le _, by simpa using symbols.symm⟩
      | cons o r =>
        have inPadding : o ∈ List.replicate cut pad := by simp [padding]
        have inSymbols : o ∈ (digits octets).map symbol := by simp [symbols]
        rw [List.eq_of_mem_replicate inPadding] at inSymbols
        exact absurd inSymbols (pad_not_mem_symbols _)
    · obtain ⟨total, kept, -⟩ := List.replicate_eq_append_iff.mp padding
      exact ⟨r.length, by omega, by rw [← kept]⟩
  · intro given
    obtain ⟨k, fits, rfl⟩ := given
    refine ⟨missing (digits octets).length - k, ?_⟩
    rw [List.append_assoc, List.replicate_append_replicate, Nat.add_sub_cancel' fits]

/-- **Reading accepts exactly the forms of an octet string.** -/
theorem decode?_eq_some_iff {written octets : Bytes} :
    decode? written = some octets ↔ Spells written octets := by
  rw [spells_iff]
  constructor
  · intro read
    simp only [decode?, Option.ite_none_right_eq_some] at read
    obtain ⟨⟨onlyPads, fits⟩, read⟩ := read
    obtain ⟨l, values, found⟩ := Option.bind_eq_some_iff.mp read
    obtain ⟨small, symbols⟩ := map_symbol_of_mapM_value? values
    have same : digits octets = l := digits_of_octets? small found
    have pads : written.dropWhile (· ≠ pad) =
        List.replicate (written.dropWhile (· ≠ pad)).length pad :=
      List.eq_replicate_of_mem fun o mem => of_decide_eq_true (List.all_eq_true.mp onlyPads o mem)
    rw [symbols, List.length_map] at fits
    refine ⟨(written.dropWhile (· ≠ pad)).length, ?_, ?_⟩
    · rwa [same]
    · rw [same, ← symbols, ← pads, List.takeWhile_append_dropWhile]
  · intro given
    obtain ⟨k, fits, rfl⟩ := given
    rw [decode?_symbols (digits_lt octets) fits, octets?_digits]

/-- The forms of one octet string differ in nothing but the padding at their ends. -/
theorem Spells.stem {a b octets : Bytes} (ha : Spells a octets) (hb : Spells b octets) :
    ∃ stem j k, pad ∉ stem ∧ a = stem ++ List.replicate j pad ∧ b = stem ++ List.replicate k pad := by
  obtain ⟨j, -, rfl⟩ := spells_iff.mp ha
  obtain ⟨k, -, rfl⟩ := spells_iff.mp hb
  exact ⟨(digits octets).map symbol, j, k, pad_not_mem_symbols _, rfl, rfl⟩

/-! ## As the value of an attribute -/

/-- A written value ends where its attribute does. -/
theorem comma_not_mem_encode (b : Bytes) : comma ∉ encode b := by
  rw [encode_eq, List.mem_append, not_or]
  constructor
  · intro h
    obtain ⟨n, -, same⟩ := List.mem_map.mp h
    exact symbol_ne_comma n same
  · intro h
    exact absurd (List.eq_of_mem_replicate h) (by decide)

theorem Spells.comma_not_mem {written octets : Bytes} (h : Spells written octets) :
    comma ∉ written := by
  obtain ⟨cut, same⟩ := h
  intro mem
  apply comma_not_mem_encode octets
  rw [← same]
  exact List.mem_append_left _ mem

theorem comma_not_mem_text (b : Bytes) : ',' ∉ (text b).toList := by
  rw [← comma_mem_utf8_iff, utf8_text]
  exact comma_not_mem_encode b

theorem encode_ne_nil {b : Bytes} (nonempty : b ≠ []) : encode b ≠ [] := by
  intro h
  have read := decode?_encode b
  rw [h] at read
  exact nonempty (Option.some.inj read).symm

end Scram.Base64
