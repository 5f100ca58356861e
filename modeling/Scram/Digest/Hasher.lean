import Scram.Digest.HashFunction

/-!
# Hashing in pieces

A hash under way: the state after the full blocks so far, the octets that fill no block yet,
and the count of all octets. Two statements say that pieces do not matter: feeding one string
after another is feeding their concatenation (`update_update`), and what a fresh hasher answers
is the digest of all that it was fed (`finish_update_start`).
-/

namespace Scram

/-- A hash under way. -/
structure Hasher (f : HashFunction) where
  state : f.State
  /-- Octets that wait for the rest of their block. -/
  pending : Bytes
  /-- How many octets have been fed. -/
  length : Nat

namespace Hasher

variable {f : HashFunction}

/-- A hasher that has been fed nothing. -/
def start : Hasher f := ⟨f.initial, [], 0⟩

/-- Feeds octets: compresses every block they complete, and keeps the rest. -/
def update (h : Hasher f) (data : Bytes) : Hasher f where
  state := (blocks f.blockSize (h.pending ++ data)).foldl f.compress h.state
  pending := remainder f.blockSize (h.pending ++ data)
  length := h.length + data.length

/-- The digest of what has been fed. -/
def finish (h : Hasher f) : Bytes := f.digest (h.update (f.padding h.length)).state

@[simp] theorem length_finish (h : Hasher f) : h.finish.length = f.digestSize :=
  f.length_digest _

/-- Two pieces one after another are fed as their concatenation. -/
theorem update_update (h : Hasher f) (a b : Bytes) : (h.update a).update b = h.update (a ++ b) := by
  have regroup : h.pending ++ (a ++ b) = (h.pending ++ a) ++ b := (List.append_assoc ..).symm
  simp only [update, regroup, blocks_append f.blockSize_pos (h.pending ++ a) b,
    remainder_append f.blockSize_pos (h.pending ++ a) b, List.foldl_append, List.length_append,
    Nat.add_assoc]

/-- Any number of pieces are fed as what they are put together. -/
theorem foldl_update (h : Hasher f) (a : Bytes) (parts : List Bytes) :
    parts.foldl update (h.update a) = h.update (a ++ parts.flatten) := by
  induction parts generalizing a with
  | nil => simp
  | cons b parts ih => simp [update_update, ih]

/-- A fresh hasher answers with the digest of the message it was fed. -/
theorem finish_update_start (data : Bytes) : ((start : Hasher f).update data).finish = f.hash data := by
  rw [finish, update_update]
  simp [update, start, HashFunction.hash]

end Hasher

end Scram
