/-!
# Octets

Byte strings and what the protocol does with them apart from hashing: the UTF-8 octets of a
text, fixed-width big-endian numbers, and the exclusive or of two strings.

`Bytes` is `List UInt8`, the carrier on which the message grammars are stated. The main
statement is `ofUtf8?_eq_some_iff`: reading UTF-8 accepts exactly the octets of a text, so a
text and its octets determine each other.
-/

namespace Scram

abbrev Bytes := List UInt8

/-- The octet that separates the attributes of a message. -/
def comma : UInt8 := 0x2c

/-! ## Text -/

/-- The octets of a text in UTF-8. -/
def utf8 (s : String) : Bytes := s.toList.flatMap String.utf8EncodeChar

/-- The text whose UTF-8 octets these are; octets that are not UTF-8 spell none. -/
def ofUtf8? (b : Bytes) : Option String := String.fromUTF8? b.toByteArray

@[simp] theorem utf8_ofList (l : List Char) :
    utf8 (String.ofList l) = l.flatMap String.utf8EncodeChar := by
  simp [utf8]

@[simp] theorem utf8_append (s t : String) : utf8 (s ++ t) = utf8 s ++ utf8 t := by
  simp [utf8]

/-- These are the octets with which the text is stored. -/
theorem toByteArray_utf8 (s : String) : (utf8 s).toByteArray = s.toByteArray :=
  String.utf8Encode_toList

theorem toByteArray_injective {a b : Bytes} (h : a.toByteArray = b.toByteArray) : a = b := by
  have h := congrArg (fun x => x.data.toList) h
  simpa using h

/-- A text is known by its octets. -/
theorem utf8_injective {s t : String} (h : utf8 s = utf8 t) : s = t := by
  rw [← String.toByteArray_inj, ← toByteArray_utf8, ← toByteArray_utf8, h]

/-- Reading UTF-8 accepts the octets of a text and nothing else, and finds this text. -/
theorem ofUtf8?_eq_some_iff {b : Bytes} {s : String} : ofUtf8? b = some s ↔ utf8 s = b := by
  constructor
  · intro h
    unfold ofUtf8? String.fromUTF8? at h
    split at h
    · injection h with h
      apply toByteArray_injective
      rw [toByteArray_utf8, ← h]
      rfl
    · contradiction
  · rintro rfl
    have valid : (utf8 s).toByteArray.IsValidUTF8 := toByteArray_utf8 s ▸ s.isValidUTF8
    unfold ofUtf8? String.fromUTF8?
    rw [dif_pos valid, Option.some.injEq, ← String.toByteArray_inj]
    exact toByteArray_utf8 s

@[simp] theorem ofUtf8?_utf8 (s : String) : ofUtf8? (utf8 s) = some s :=
  ofUtf8?_eq_some_iff.2 rfl

/-- The text whose characters are numbered by these octets, meant for octets below 128. -/
def asciiText (b : Bytes) : String := String.ofList (b.map fun o => Char.ofNat o.toNat)

/-- A character below 128 takes the one octet of its number. -/
theorem utf8EncodeChar_ofNat {o : UInt8} (ascii : o < 128) :
    String.utf8EncodeChar (Char.ofNat o.toNat) = [o] := by
  have small : o.toNat < 128 := UInt8.lt_iff_toNat_lt.1 ascii
  have valid : o.toNat.isValidChar := Or.inl (by omega)
  have value : (Char.ofNat o.toNat).val.toNat = o.toNat := by
    rw [Char.ofNat, dif_pos valid]
    rfl
  simp [String.utf8EncodeChar, value, Nat.le_of_lt_succ small]

/-- On octets below 128 the text has exactly these octets. -/
theorem utf8_asciiText {b : Bytes} (ascii : ∀ o ∈ b, o < 128) : utf8 (asciiText b) = b := by
  rw [asciiText, utf8_ofList, List.flatMap_map]
  induction b with
  | nil => rfl
  | cons o b ih =>
    rw [List.flatMap_cons, utf8EncodeChar_ofNat (ascii o List.mem_cons_self),
      ih fun x hx => ascii x (List.mem_cons_of_mem _ hx)]
    rfl

/-! ## Numbers -/

/-- The last `width` base-256 digits of a number, most significant first. -/
def bigEndian : (width : Nat) → Nat → Bytes
  | 0, _ => []
  | width + 1, n => bigEndian width (n / 256) ++ [UInt8.ofNat n]

/-- A number takes exactly the width it was given, leading zeros included. -/
@[simp] theorem length_bigEndian (width n : Nat) : (bigEndian width n).length = width := by
  induction width generalizing n with
  | zero => rfl
  | succ width ih => simp [bigEndian, ih]

/-! ## Exclusive or -/

/-- The octet-wise exclusive or, as long as the shorter of the two strings. -/
def xorOctets (a b : Bytes) : Bytes := List.zipWith (· ^^^ ·) a b

/-- The sum of two strings is as long as the shorter one. -/
@[simp] theorem length_xorOctets (a b : Bytes) : (xorOctets a b).length = min a.length b.length :=
  List.length_zipWith

/-- Between strings of one length nothing is lost: the same mask takes the sum back. -/
theorem xorOctets_cancel_right {a b : Bytes} (h : a.length ≤ b.length) : xorOctets (xorOctets a b) b = a := by
  induction a generalizing b with
  | nil => rfl
  | cons x a ih =>
    cases b with
    | nil => simp at h
    | cons y b =>
      have tail := ih (b := b) (by simpa using h)
      simp only [xorOctets] at tail
      simp only [xorOctets, List.zipWith_cons_cons, tail, UInt8.xor_assoc, UInt8.xor_self, UInt8.xor_zero]

/-- Under a mask of its own length a string is known by two things: its length, and what taking the
mask off leaves. One would not do, since a mask reaches no further than its own end. -/
theorem eq_xorOctets_iff {a b c : Bytes} (full : a.length = b.length) :
    c = xorOctets a b ↔ c.length = b.length ∧ xorOctets c b = a := by
  constructor
  · rintro rfl
    refine ⟨?_, xorOctets_cancel_right (Nat.le_of_eq full)⟩
    rw [length_xorOctets, full, Nat.min_self]
  · rintro ⟨long, rfl⟩
    exact (xorOctets_cancel_right (Nat.le_of_eq long)).symm

end Scram
