/-!
# Blocks

A list read as full blocks of one size, and the part at its end that fills no block. Reading on
after the remainder is reading the whole (`blocks_append`, `remainder_append`): this is what lets a
hash take its input in pieces.
-/

namespace Scram

variable {α : Type}

/-- The first `count` blocks of `size` elements. -/
def firstBlocks (size : Nat) : (count : Nat) → List α → List (List α)
  | 0, _ => []
  | count + 1, l => l.take size :: firstBlocks size count (l.drop size)

/-- All the full blocks of a list. -/
def blocks (size : Nat) (l : List α) : List (List α) := firstBlocks size (l.length / size) l

/-- What is left of a list after its full blocks. -/
def remainder (size : Nat) (l : List α) : List α := l.drop (l.length / size * size)

/-- What fills no block is as long as the length leaves over. -/
theorem length_remainder (size : Nat) (l : List α) :
    (remainder size l).length = l.length % size := by
  rw [remainder, List.length_drop, Nat.mod_def, Nat.mul_comm]

/-- The first blocks are had in two takes, the second behind the first. -/
theorem firstBlocks_add (size m n : Nat) (l : List α) :
    firstBlocks size (m + n) l = firstBlocks size m l ++ firstBlocks size n (l.drop (m * size)) := by
  induction m generalizing l with
  | zero => simp [firstBlocks]
  | succ m ih =>
    rw [Nat.succ_add, firstBlocks, ih, firstBlocks, List.cons_append, List.drop_drop,
      Nat.succ_mul, Nat.add_comm size]

/-- Blocks that a list fills by itself do not depend on what is put behind it. -/
theorem firstBlocks_append {size count : Nat} {l : List α} (r : List α)
    (fits : count * size ≤ l.length) :
    firstBlocks size count (l ++ r) = firstBlocks size count l := by
  induction count generalizing l with
  | zero => rfl
  | succ count ih =>
    rw [Nat.succ_mul] at fits
    have first : size ≤ l.length := by omega
    rw [firstBlocks, firstBlocks, List.take_append_of_le_length first,
      List.drop_append_of_le_length first, ih]
    rw [List.length_drop]
    omega

/-- The blocks of a concatenation are those of the first list, and those that its remainder fills
together with the second. -/
theorem length_append_div {size : Nat} (pos : 0 < size) (l r : List α) :
    (l ++ r).length / size = l.length / size + (remainder size l ++ r).length / size := by
  rw [List.length_append, List.length_append, length_remainder, ← Nat.mul_add_div pos,
    ← Nat.add_assoc, Nat.div_add_mod]

/-- Behind the blocks of the first list stand its remainder and the second list. -/
theorem drop_append_remainder {size : Nat} (l r : List α) :
    (l ++ r).drop (l.length / size * size) = remainder size l ++ r :=
  List.drop_append_of_le_length (Nat.div_mul_le_self _ _)

/-- Cutting may stop at the end of any piece and go on from its remainder. -/
theorem blocks_append {size : Nat} (pos : 0 < size) (l r : List α) :
    blocks size (l ++ r) = blocks size l ++ blocks size (remainder size l ++ r) := by
  rw [blocks, length_append_div pos, firstBlocks_add, drop_append_remainder,
    firstBlocks_append r (Nat.div_mul_le_self _ _), blocks, blocks]

/-- What is left at the end is what the last piece leaves, put behind the remainder before it. -/
theorem remainder_append {size : Nat} (pos : 0 < size) (l r : List α) :
    remainder size (l ++ r) = remainder size (remainder size l ++ r) := by
  show (l ++ r).drop ((l ++ r).length / size * size) = _
  rw [length_append_div pos, Nat.add_mul, ← List.drop_drop, drop_append_remainder]
  rfl

end Scram
