import Scram.Mechanism

/-!
# Names of mechanisms

A mechanism's name is read in three steps: what every such name begins with is taken off, then the
ending that asks for channel binding where it stands there, and what is left is looked up among the
names of algorithms. The last step alone is too lenient, for algorithms are known by other names
besides their own, in any case of the letters. `ofName_exact` says that the steps together accept the
names that mechanisms have and nothing else, and that a refusal shows the text as it was given.
-/

namespace Scram

/-- An algorithm is found by its own name. -/
theorem Algorithm.ofName_name (a : Algorithm) : ofName a.name = .ok a := by
  cases a <;> rfl

namespace Mechanism

variable {name : String}

/-- No algorithm's name ends like the name of a mechanism with channel binding. -/
theorem beforeEnd?_algorithm (a : Algorithm) : Cut.beforeEnd? "-PLUS".toList a.name.toList = none := by
  cases a <;> decide

/-- The ending is told from the name of the algorithm before it. -/
theorem splitBinding_append (a : Algorithm) (plus : Bool) :
    splitBinding (a.name ++ if plus then "-PLUS" else "").toList = (a.name, plus) := by
  unfold splitBinding
  cases plus with
  | true =>
    rw [if_pos rfl, String.toList_append, Cut.beforeEnd?_append]
    simp only [String.ofList_toList]
  | false =>
    rw [if_neg (by decide), String.append_empty, beforeEnd?_algorithm]
    simp only [String.ofList_toList]

/-- The two parts are all that was split. -/
theorem append_splitBinding (rest : List Char) :
    ((splitBinding rest).1 ++ if (splitBinding rest).2 then "-PLUS" else "").toList = rest := by
  unfold splitBinding
  cases cut : Cut.beforeEnd? "-PLUS".toList rest with
  | some before =>
    dsimp only
    rw [if_pos rfl, String.toList_append, String.toList_ofList]
    exact (Cut.beforeEnd?_eq_some_iff.mp cut).symm
  | none =>
    dsimp only
    rw [if_neg (by decide), String.append_empty, String.toList_ofList]

/-- The name by its parts: the common beginning, the algorithm, and the ending where it is asked
for. -/
theorem name_toList (m : Mechanism) : m.name.toList =
    "SCRAM-".toList ++ (m.algorithm.name ++ if m.plus then "-PLUS" else "").toList := by
  rw [Mechanism.name, String.append_assoc, String.toList_append]

/-- A mechanism is found by its name and by no other. -/
theorem ofName_eq_ok_iff {m : Mechanism} : ofName name = .ok m ↔ name = m.name := by
  simp only [ofName, bind_eq_ok_iff, expect_eq_ok_iff, mapError_eq_ok_iff, ensure_eq_ok_iff,
    Cut.after?_eq_some_iff]
  constructor
  · intro given
    obtain ⟨rest, begins, algorithm, -, -, own, same⟩ := given
    cases same
    rw [← String.toList_inj, name_toList, begins]
    dsimp only
    -- the name that was looked up is the algorithm's own, so the two parts make up what was split
    rw [own, append_splitBinding]
  · rintro rfl
    refine ⟨_, m.name_toList, ?_⟩
    rw [splitBinding_append]
    exact ⟨m.algorithm, m.algorithm.ofName_name, (), rfl, rfl⟩

/-- However a text fails to be a mechanism's name, the error shows all of it. -/
theorem ofName_failsOnlyAs (name : String) :
    FailsOnlyAs (· = .unsupportedAlgorithm name) (ofName name) := by
  refine .bind (failsOnlyAs_expect rfl) fun rest => ?_
  refine .bind (failsOnlyAs_mapError fun _ => rfl) fun algorithm => ?_
  exact .bind (failsOnlyAs_ensure rfl) fun _ => failsOnlyAs_ok _

/-- **A mechanism is found by exactly its name.** Every other text is refused, whatever part of it
could have been looked up, and the error carries the whole text as it was given. -/
theorem ofName_exact (name : String) :
    (∀ m, ofName name = .ok m ↔ name = m.name) ∧
    (ofName name = .error (.unsupportedAlgorithm name) ↔ ∀ m : Mechanism, name ≠ m.name) := by
  refine ⟨fun m => ofName_eq_ok_iff, ?_⟩
  constructor
  · intro refused m same
    rw [ofName_eq_ok_iff.mpr same] at refused
    contradiction
  · intro other
    cases found : ofName name with
    | ok m => exact absurd (ofName_eq_ok_iff.mp found) (other m)
    | error error => rw [ofName_failsOnlyAs name error found]

example : ofName "SCRAM-sha1" = .error (.unsupportedAlgorithm "SCRAM-sha1") := rfl

end Mechanism

end Scram
