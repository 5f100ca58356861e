/-!
# Iteration counts

How often a password is hashed: a positive number of 32 bits. A count of zero has no meaning,
so the type has none.
-/

namespace Scram

/-- A number from 1 to 4294967295. -/
structure IterationCount where
  toNat : Nat
  pos : 0 < toNat
  lt : toNat < 4294967296
  deriving DecidableEq, Repr

namespace IterationCount

def ofNat? (n : Nat) : Option IterationCount :=
  if h : 0 < n ∧ n < 4294967296 then some ⟨n, h.1, h.2⟩ else none

/-- A count is made exactly of its own number. -/
theorem ofNat?_eq_some_iff {n : Nat} {count : IterationCount} :
    ofNat? n = some count ↔ count.toNat = n := by
  unfold ofNat?
  obtain ⟨m, pos, lt⟩ := count
  split
  · next h => simp [eq_comm]
  · next h =>
    simp only [reduceCtorEq, false_iff]
    rintro rfl
    exact h ⟨pos, lt⟩

@[simp] theorem ofNat?_toNat (count : IterationCount) : ofNat? count.toNat = some count :=
  ofNat?_eq_some_iff.2 rfl

/-- The decimal digits, without leading zeros. -/
def text (count : IterationCount) : String := count.toNat.repr

/-- Reads decimal digits. Leading zeros do not matter, and neither does the number of digits: the
value decides. -/
def ofDigits? (digits : List Char) : Option IterationCount :=
  if digits ≠ [] ∧ digits.all Char.isDigit then ofNat? (Nat.ofDigitChars 10 digits 0) else none

/-- Reads decimal digits after an optional plus sign. -/
def ofChars? : List Char → Option IterationCount
  | '+' :: digits => ofDigits? digits
  | digits => ofDigits? digits

end IterationCount

end Scram
