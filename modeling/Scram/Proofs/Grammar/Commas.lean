import Scram.Cut
import Scram.Nonce

/-!
# Commas

Every message is a row of attributes with commas between them, and every reader finds its way by
the commas alone. This module holds what the grammars of the single messages rest on: the parts of a
split text are what its commas cut it into (`Cut.exists_rest_of_splitOn`), a text and its octets have
their commas in common (`comma_mem_utf8_iff`), and putting messages together puts their attributes
together (`attributes_append`).
-/

namespace Scram

/-! ## Values and tails -/

namespace Cut

variable {α : Type} {sep : α} {a b : List α}

/-- Nothing, or a separator and whatever comes after it: what may follow a value that has no
separator in it. -/
def Tail (sep : α) (l : List α) : Prop := l = [] ∨ ∃ r, l = sep :: r

/-- A beginning without separators is over before the first separator. -/
theorem exists_append_of_append_sep {c d : List α} (absent : sep ∉ a)
    (same : a ++ b = c ++ sep :: d) : ∃ r, c = a ++ r := by
  rcases List.append_eq_append_iff.mp same with ⟨r, rfl, -⟩ | ⟨r, rfl, rest⟩
  · exact ⟨r, rfl⟩
  · cases r with
    | nil => exact ⟨[], by simp⟩
    | cons o r =>
      obtain ⟨rfl, -⟩ := List.cons.inj rest
      exact absurd (List.mem_append_right c List.mem_cons_self) absent

/-- A value without separators, up to the tail behind it. -/
theorem before_append [DecidableEq α] (absent : sep ∉ a) (tail : Tail sep b) :
    before sep (a ++ b) = a := by
  rw [before_eq_iff]
  refine ⟨absent, ?_⟩
  rcases tail with rfl | ⟨r, rfl⟩
  · exact .inl (List.append_nil a)
  · exact .inr ⟨r, rfl⟩

/-- The first part of a split list, and the tail behind it. -/
theorem exists_tail_of_splitOn [DecidableEq α] {l p : List α} (first : (l.splitOn sep)[0]? = some p) :
    sep ∉ p ∧ ∃ r, Tail sep r ∧ l = p ++ r := by
  cases cut : atFirst? sep l with
  | none =>
    have absent := atFirst?_eq_none_iff.mp cut
    rw [List.splitOn_eq_singleton absent] at first
    cases first
    exact ⟨absent, [], .inl rfl, by simp⟩
  | some sides =>
    obtain ⟨absent, rfl⟩ := atFirst?_eq_some_iff.mp cut
    rw [List.splitOn_append_cons_self_of_not_mem absent] at first
    cases first
    exact ⟨absent, _, .inr ⟨_, rfl⟩, rfl⟩

/-- Where a split list has a further part, its first part ends at a separator, and the further
parts are those of what is behind it. -/
theorem exists_rest_of_splitOn [DecidableEq α] {l p q : List α} {n : Nat}
    (first : (l.splitOn sep)[0]? = some p) (later : (l.splitOn sep)[n + 1]? = some q) :
    ∃ r, l = p ++ sep :: r ∧ ∀ k, (r.splitOn sep)[k]? = (l.splitOn sep)[k + 1]? := by
  obtain ⟨absent, r, rfl | ⟨r, rfl⟩, rfl⟩ := exists_tail_of_splitOn first
  · rw [List.append_nil, List.splitOn_eq_singleton absent] at later
    simp at later
  · exact ⟨r, rfl, fun k => by
      rw [List.splitOn_append_cons_self_of_not_mem absent, List.getElem?_cons_succ]⟩

/-- A part without separators and the tail behind it, split. -/
theorem splitOn_append_tail [DecidableEq α] (absent : sep ∉ a) (tail : Tail sep b) :
    ∃ parts, (a ++ b).splitOn sep = a :: parts := by
  rcases tail with rfl | ⟨r, rfl⟩
  · exact ⟨[], by rw [List.append_nil, List.splitOn_eq_singleton absent]⟩
  · exact ⟨_, List.splitOn_append_cons_self_of_not_mem absent r⟩

end Cut

/-! ## Commas in text -/

/-- Of all characters only the comma has the octet of a comma in its encoding. -/
theorem comma_mem_utf8EncodeChar_iff (c : Char) : comma ∈ String.utf8EncodeChar c ↔ c = ',' := by
  have large {n : Nat} (low : 0x80 ≤ n) (high : n < 256) : comma ≠ UInt8.ofNat n := by
    intro same
    have value := congrArg UInt8.toNat same
    rw [UInt8.toNat_ofNat', Nat.mod_eq_of_lt high] at value
    have : comma.toNat = 44 := rfl
    omega
  have code : c = ',' ↔ c.val.toNat = 44 := by
    rw [Char.ext_iff, ← UInt32.toNat_inj]
    rfl
  -- one case for each length of the encoding; only the shortest has an octet below 128
  fun_cases String.utf8EncodeChar c with
  | case1 v small =>
    rw [List.mem_singleton, code, ← UInt8.toNat_inj, UInt8.toNat_ofNat', Nat.mod_eq_of_lt (by omega)]
    exact eq_comm
  | case2 v _ _ =>
    refine iff_of_false ?_ (by rw [code]; omega)
    simp only [List.mem_cons, List.not_mem_nil, or_false, not_or]
    exact ⟨large (by omega) (by omega), large (by omega) (by omega)⟩
  | case3 v _ _ _ =>
    refine iff_of_false ?_ (by rw [code]; omega)
    simp only [List.mem_cons, List.not_mem_nil, or_false, not_or]
    exact ⟨large (by omega) (by omega), large (by omega) (by omega), large (by omega) (by omega)⟩
  | case4 v _ _ _ =>
    refine iff_of_false ?_ (by rw [code]; omega)
    simp only [List.mem_cons, List.not_mem_nil, or_false, not_or]
    exact ⟨large (by omega) (by omega), large (by omega) (by omega), large (by omega) (by omega),
      large (by omega) (by omega)⟩

/-- A text has a comma exactly if its octets have one. -/
theorem comma_mem_utf8_iff (s : String) : comma ∈ utf8 s ↔ ',' ∈ s.toList := by
  simp [utf8, comma_mem_utf8EncodeChar_iff]

theorem comma_not_mem_utf8 {s : String} (absent : ',' ∉ s.toList) : comma ∉ utf8 s :=
  mt (comma_mem_utf8_iff s).mp absent

/-- A nonce is over at the next comma. -/
theorem comma_not_mem_of_isNonce {b : Bytes} (h : isNonce b) : comma ∉ b := by
  intro mem
  exact ((isNonce_iff.mp h).2 comma mem).2.2 rfl

/-- A nonce has no comma in its text either. -/
theorem comma_not_mem_toList_of_isNonce {s : String} (h : isNonce (utf8 s)) : ',' ∉ s.toList := by
  rw [← comma_mem_utf8_iff]
  exact comma_not_mem_of_isNonce h

/-- What a tail is, said of the text. -/
theorem tail_toList_iff {s : String} :
    Cut.Tail ',' s.toList ↔ s = "" ∨ ∃ more, s = "," ++ more := by
  constructor
  · rintro (empty | ⟨more, split⟩)
    · exact .inl (String.toList_eq_nil_iff.mp empty)
    · refine .inr ⟨String.ofList more, ?_⟩
      rw [← String.toList_inj, split]
      simp
  · rintro (rfl | ⟨more, rfl⟩)
    · exact .inl rfl
    · exact .inr ⟨more.toList, by simp⟩

/-! ## Attributes -/

/-- What stands between the commas of a message. -/
def attributes (message : Bytes) : List Bytes := message.splitOn comma

/-- A comma between two messages keeps their attributes apart. -/
theorem attributes_append (a b : Bytes) :
    attributes (a ++ comma :: b) = attributes a ++ attributes b :=
  List.splitOn_append_cons_self a b

theorem attributes_of_not_mem {a : Bytes} (absent : comma ∉ a) : attributes a = [a] :=
  List.splitOn_eq_singleton absent

/-- A value and the tail behind it: what the tail holds of its own comes behind its first comma. -/
theorem attributes_append_tail {a b : Bytes} (absent : comma ∉ a) (tail : Cut.Tail comma b) :
    attributes (a ++ b) = a :: (attributes b).tail := by
  rcases tail with rfl | ⟨r, rfl⟩
  · rw [List.append_nil, attributes_of_not_mem absent]
    rfl
  · have first : attributes (comma :: r) = attributes [] ++ attributes r := attributes_append [] r
    rw [attributes_append, attributes_of_not_mem absent, first]
    rfl

/-- One attribute: its letter, an equals sign, and its value. -/
def attrVal (letter : Char) (value : Bytes) : Bytes := UInt8.ofNat letter.toNat :: 0x3d :: value

theorem attrVal_inj {letter : Char} {a b : Bytes} :
    attrVal letter a = attrVal letter b ↔ a = b := by
  simp [attrVal]

/-- The letters that messages use tell their attributes apart. -/
theorem attrVal_ne {letter letter' : Char} (a b : Bytes)
    (differ : UInt8.ofNat letter.toNat ≠ UInt8.ofNat letter'.toNat := by decide) :
    attrVal letter a ≠ attrVal letter' b := by
  simp [attrVal, differ]

/-- An attribute has a comma only where its value has one. -/
theorem comma_not_mem_attrVal {letter : Char} {a : Bytes} (absent : comma ∉ a)
    (plain : UInt8.ofNat letter.toNat ≠ comma := by decide) : comma ∉ attrVal letter a := by
  simp only [attrVal, List.mem_cons, not_or]
  exact ⟨plain.symm, by decide, absent⟩

/-- A text between commas has its tail where its octets have theirs. -/
theorem tail_utf8 {s : String} (tail : Cut.Tail ',' s.toList) : Cut.Tail comma (utf8 s) := by
  rcases tail with empty | ⟨r, split⟩
  · rw [String.toList_eq_nil_iff] at empty
    exact .inl (empty ▸ rfl)
  · refine .inr ⟨r.flatMap String.utf8EncodeChar, ?_⟩
    rw [utf8, split, List.flatMap_cons]
    rfl

end Scram
