/-!
# Cutting a list at a mark

The cuts that messages and names are read with: what follows a fixed beginning, what stands
before a fixed end, the two sides of the first separator, what stands before it, and the two
sides of the last mark.

Each cut is pinned down by the equation it solves (`after?_eq_some_iff`,
`beforeEnd?_eq_some_iff`, `atFirst?_eq_some_iff`, `before_eq_iff`, `atLast?_eq_some` with
`atLast?_append`), so that a reader built from cuts is proved from these equations and never by
walking the list again.
-/

namespace Scram.Cut

variable {α : Type} [DecidableEq α]

/-! ## After a fixed beginning -/

/-- What follows `mark` in a list that begins with it. -/
def after? : (mark : List α) → List α → Option (List α)
  | [], l => some l
  | _ :: _, [] => none
  | m :: mark, x :: l => if m = x then after? mark l else none

/-- The equation of this cut: the list is the mark and the rest. -/
theorem after?_eq_some_iff {mark l r : List α} : after? mark l = some r ↔ l = mark ++ r := by
  induction mark generalizing l with
  | nil => simp [after?]
  | cons m mark ih =>
    cases l with
    | nil => simp [after?]
    | cons x l =>
      by_cases h : m = x
      · simp [after?, h, ih]
      · simp [after?, h, Ne.symm h]

@[simp] theorem after?_append (mark r : List α) : after? mark (mark ++ r) = some r :=
  after?_eq_some_iff.2 rfl

/-- Nothing is found exactly in a list that does not begin with the mark. -/
theorem after?_eq_none_iff {mark l : List α} : after? mark l = none ↔ ∀ r, l ≠ mark ++ r := by
  rw [Option.eq_none_iff_forall_not_mem]
  simp [after?_eq_some_iff]

/-! ## Before a fixed end -/

/-- What stands before `mark` in a list that ends in it. -/
def beforeEnd? (mark l : List α) : Option (List α) :=
  (after? mark.reverse l.reverse).map List.reverse

/-- The equation of this cut: the list is the rest and the mark. -/
theorem beforeEnd?_eq_some_iff {mark l r : List α} : beforeEnd? mark l = some r ↔ l = r ++ mark := by
  simp only [beforeEnd?, Option.map_eq_some_iff, after?_eq_some_iff]
  constructor
  · intro given
    obtain ⟨back, turned, rfl⟩ := given
    rw [← List.reverse_reverse l, turned, List.reverse_append, List.reverse_reverse]
  · rintro rfl
    exact ⟨r.reverse, List.reverse_append, List.reverse_reverse r⟩

@[simp] theorem beforeEnd?_append (mark r : List α) : beforeEnd? mark (r ++ mark) = some r :=
  beforeEnd?_eq_some_iff.2 rfl

/-! ## At the first separator -/

/-- The two sides of the first separator, which belongs to neither. -/
def atFirst? (sep : α) : List α → Option (List α × List α)
  | [] => none
  | x :: l => if x = sep then some ([], l) else (atFirst? sep l).map fun (a, b) => (x :: a, b)

/-- The equation of this cut: a separator between the sides, and none in the first of them. -/
theorem atFirst?_eq_some_iff {sep : α} {l a b : List α} :
    atFirst? sep l = some (a, b) ↔ sep ∉ a ∧ l = a ++ sep :: b := by
  induction l generalizing a with
  | nil => simp [atFirst?]
  | cons x l ih =>
    by_cases h : x = sep
    · subst h
      cases a with
      | nil => simp [atFirst?, eq_comm]
      | cons y a => simpa [atFirst?] using fun differ _ same => absurd same differ
    · cases a with
      | nil => simp [atFirst?, h]
      | cons y a =>
        simp only [atFirst?, h, if_false, Option.map_eq_some_iff, Prod.exists, Prod.mk.injEq,
          List.cons.injEq, List.cons_append, List.mem_cons, not_or]
        constructor
        · rintro ⟨a, b, found, ⟨rfl, rfl⟩, rfl⟩
          obtain ⟨absent, rfl⟩ := ih.1 found
          exact ⟨⟨Ne.symm h, absent⟩, rfl, rfl⟩
        · rintro ⟨⟨_, absent⟩, rfl, rfl⟩
          exact ⟨a, b, ih.2 ⟨absent, rfl⟩, ⟨rfl, rfl⟩, rfl⟩

/-- A side without a separator is cut off at the separator behind it. -/
theorem atFirst?_append {sep : α} {a : List α} (absent : sep ∉ a) (b : List α) :
    atFirst? sep (a ++ sep :: b) = some (a, b) :=
  atFirst?_eq_some_iff.2 ⟨absent, rfl⟩

/-- What stands before the first separator, and what behind it, is known by the whole. -/
theorem append_sep_inj {sep : α} {a a' b b' : List α} (absent : sep ∉ a) (absent' : sep ∉ a')
    (same : a ++ sep :: b = a' ++ sep :: b') : a = a' ∧ b = b' := by
  have cut := atFirst?_append absent b
  rw [same, atFirst?_append absent' b'] at cut
  cases cut
  exact ⟨rfl, rfl⟩

/-- There is no first separator exactly where there is none at all. -/
theorem atFirst?_eq_none_iff {sep : α} {l : List α} : atFirst? sep l = none ↔ sep ∉ l := by
  induction l with
  | nil => simp [atFirst?]
  | cons x l ih =>
    by_cases h : x = sep
    · simp [atFirst?, h]
    · simp [atFirst?, h, ih, Ne.symm h]

/-- What stands before the first separator, and all of a list without one. -/
def before (sep : α) (l : List α) : List α := l.takeWhile (· ≠ sep)

/-- The equation of this cut: no separator in the part, which is all of the list or stands before a
separator. -/
theorem before_eq_iff {sep : α} {l a : List α} :
    before sep l = a ↔ sep ∉ a ∧ (l = a ∨ ∃ b, l = a ++ sep :: b) := by
  induction l generalizing a with
  | nil => cases a <;> simp [before]
  | cons x l ih =>
    have ih := @ih
    simp only [before] at ih ⊢
    by_cases h : x = sep
    · subst h
      cases a with
      | nil => simp
      | cons y a => simp +contextual [eq_comm]
    · cases a with
      | nil => simp [h]
      | cons y a =>
        simp only [ne_eq, h, not_false_eq_true, decide_true, List.takeWhile_cons_of_pos,
          List.cons.injEq, ih, List.mem_cons, not_or, List.cons_append]
        constructor
        · rintro ⟨rfl, absent, rest⟩
          exact ⟨⟨Ne.symm h, absent⟩, rest.imp (⟨rfl, ·⟩) (fun ⟨b, e⟩ => ⟨b, rfl, e⟩)⟩
        · rintro ⟨⟨_, absent⟩, rest⟩
          rcases rest with ⟨rfl, e⟩ | ⟨b, rfl, e⟩
          · exact ⟨rfl, absent, .inl e⟩
          · exact ⟨rfl, absent, .inr ⟨b, e⟩⟩

/-! ## At the last mark -/

/-- The two sides of the last place where `mark` stands. -/
def atLast? (mark : List α) : List α → Option (List α × List α)
  | [] => (after? mark []).map ([], ·)
  | x :: l =>
    match atLast? mark l with
    | some (a, b) => some (x :: a, b)
    | none => (after? mark (x :: l)).map ([], ·)

/-- Whatever is cut at its last mark is put together again from the two sides. -/
theorem atLast?_eq_some {mark l a b : List α} (h : atLast? mark l = some (a, b)) :
    l = a ++ mark ++ b := by
  induction l generalizing a with
  | nil =>
    obtain ⟨r, hr, e⟩ := Option.map_eq_some_iff.1 h
    cases e
    simpa using after?_eq_some_iff.1 hr
  | cons x l ih =>
    rw [atLast?] at h
    split at h
    · next found =>
      cases h
      rw [ih found]
      rfl
    · obtain ⟨r, hr, e⟩ := Option.map_eq_some_iff.1 h
      cases e
      simpa using after?_eq_some_iff.1 hr

/-- No mark is found in a list in which its first element does not occur. -/
theorem atLast?_eq_none {m : α} {l : List α} (mark : List α) (absent : m ∉ l) :
    atLast? (m :: mark) l = none := by
  induction l with
  | nil => rfl
  | cons x l ih =>
    obtain ⟨differ, absent⟩ := not_or.1 (mt List.mem_cons.2 absent)
    simp [atLast?, ih absent, after?, differ]

/-- The last mark is found where its first element does not occur again. -/
theorem atLast?_append {m : α} {mark b : List α} (a : List α) (once : m ∉ mark) (absent : m ∉ b) :
    atLast? (m :: mark) (a ++ m :: mark ++ b) = some (a, b) := by
  -- behind this mark its first element does not stand again, so no later mark is found
  have none_after : atLast? (m :: mark) (mark ++ b) = none :=
    atLast?_eq_none mark (by simp [once, absent])
  induction a with
  | nil =>
    have found : after? (m :: mark) (m :: (mark ++ b)) = some b :=
      after?_append (m :: mark) b
    simp [atLast?, none_after, found]
  | cons x a ih =>
    rw [List.cons_append, List.cons_append, atLast?, ih]

end Scram.Cut
