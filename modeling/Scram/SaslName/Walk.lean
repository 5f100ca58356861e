import Scram.SaslName

/-!
# Reading a name along its octets

`decode?` reads a name character by character. A reader that works in place goes by octets instead:
it finds the position of the next character that cannot stand for itself, takes over what is before
it, looks at the three octets that begin there, and goes on behind them. A position counts octets, and
a text can be cut only between two characters; so each cut of the walk is one that could go wrong.

`walk` breaks off with the position of a cut that cannot be made. The main statement is that no cut
goes wrong, whatever the text, and that the walk reads what `decode?` reads (`decodeAlong_eq`). What
begins at the position of a mark is one octet wide, and an escape that has been recognised is three;
only the look at three octets may end inside a character, and then there is no escape.

Positions and cuts are those of the library's own strings, which are UTF-8.
-/

namespace Scram.SaslName

/-! ## Octet positions -/

/-- The two sides of a text at an octet position. There are none where the position is inside of a
character, or behind the end of the text. -/
def cutAt? (text : String) (position : Nat) : Option (String × String) :=
  if valid : String.Pos.Raw.IsValid text ⟨position⟩ then
    let p := text.pos ⟨position⟩ valid
    some ((text.sliceTo p).copy, (text.sliceFrom p).copy)
  else
    none

/-- The equation of a cut: the two sides make up the text, and the position is the size of the first
in octets. -/
theorem cutAt?_eq_some_iff {text a b : String} {position : Nat} :
    cutAt? text position = some (a, b) ↔ text = a ++ b ∧ position = a.utf8ByteSize := by
  unfold cutAt?
  constructor
  · intro cut
    split at cut
    · next valid =>
      obtain ⟨rfl, rfl⟩ := Prod.mk.inj (Option.some.inj cut)
      have splits := (text.pos ⟨position⟩ valid).splits
      have offset := congrArg String.Pos.Raw.byteIdx splits.offset_eq_rawEndPos
      rw [String.offset_pos] at offset
      exact ⟨splits.eq_append, offset⟩
    · contradiction
  · intro given
    obtain ⟨rfl, rfl⟩ := given
    have valid : String.Pos.Raw.IsValid (a ++ b) ⟨a.utf8ByteSize⟩ :=
      String.Pos.Raw.isValid_iff_exists_append.mpr ⟨a, b, rfl, rfl⟩
    have splits : ((a ++ b).pos _ valid).Splits a b := ⟨rfl, String.offset_pos ..⟩
    obtain ⟨left, right⟩ := ((a ++ b).pos _ valid).splits.eq splits
    simp only [dif_pos valid, left, right]

/-- A character that cannot stand for itself in a written name. -/
abbrev Marked (c : Char) : Prop := c = '=' ∨ c = ',' ∨ c = '\x00'

/-- The octet position of the first marked character. -/
def mark? (text : String) : Option Nat := (text.find? Marked).map (·.offset.byteIdx)

/-- Where no mark is found, every character stands for itself. -/
theorem not_marked_of_mark? {text : String} (unfound : mark? text = none) :
    ∀ c ∈ text.toList, ¬Marked c := by
  rw [mark?, Option.map_eq_none_iff, String.find?_eq_find?_toSlice, Option.map_eq_none_iff,
    String.Slice.find?_eq_none_iff, ← String.contains_eq_contains_toSlice,
    String.contains_prop_eq] at unfound
  simpa using unfound

/-- The cut at the first mark can always be made. -/
theorem cutAt?_of_mark? {text : String} {position : Nat} (found : mark? text = some position) :
    ∃ plain marked c l, cutAt? text position = some (plain, marked) ∧
      (∀ d ∈ plain.toList, ¬Marked d) ∧ marked.toList = c :: l ∧ Marked c := by
  obtain ⟨p, first, rfl⟩ := Option.map_eq_some_iff.mp found
  obtain ⟨plain, c, rest, splits, marked, absent⟩ := String.find?_prop_eq_some_iff_splits.mp first
  refine ⟨plain, String.singleton c ++ rest, c, rest.toList, ?_, absent, by simp, marked⟩
  refine cutAt?_eq_some_iff.mpr ⟨splits.eq_append, ?_⟩
  rw [splits.offset_eq_rawEndPos, String.byteIdx_rawEndPos]

/-! ## The walk -/

/-- The character that an escape stands for. -/
def escaped? (escape : String) : Option Char :=
  if escape = "=2C" then some ',' else if escape = "=3D" then some '=' else none

/-- What is left behind an escape is shorter, which is why the walk ends. -/
theorem utf8ByteSize_lt_of_cutAt? {text a b : String} {position : Nat}
    (cut : cutAt? text (position + 3) = some (a, b)) : b.utf8ByteSize < text.utf8ByteSize := by
  obtain ⟨rfl, size⟩ := cutAt?_eq_some_iff.mp cut
  rw [String.utf8ByteSize_append]
  omega

/-- Reads what is left of a written name, behind what has been decoded. Where a cut cannot be made,
the walk breaks off with its position. -/
def walk (decoded rest : String) : Except Nat (Option String) :=
  match mark? rest with
  | none => .ok (some (decoded ++ rest))
  | some position =>
    match cutAt? rest position with
    | none => .error position
    | some (plain, marked) =>
      -- only a look: too few octets, or a character across the third, are no escape
      match (cutAt? marked 3).bind (escaped? ·.1) with
      | none => .ok none
      | some c =>
        match _cut : cutAt? rest (position + 3) with
        | none => .error (position + 3)
        | some (_, behind) => walk (decoded ++ plain ++ String.singleton c) behind
termination_by rest.utf8ByteSize
decreasing_by exact utf8ByteSize_lt_of_cutAt? _cut

/-- The name that is written so, read along its octets. -/
def decodeAlong (written : String) : Except Nat (Option String) :=
  if written = "" then .ok none else walk "" written

/-! ## What the walk reads -/

/-- Where an escape has been recognised, the cut behind it can be made. -/
theorem cutAt?_of_escaped? {text plain marked : String} {position : Nat} {c : Char}
    (cut : cutAt? text position = some (plain, marked))
    (known : (cutAt? marked 3).bind (escaped? ·.1) = some c) :
    ∃ escape behind, escaped? escape = some c ∧ marked = escape ++ behind ∧
      cutAt? text (position + 3) = some (plain ++ escape, behind) := by
  obtain ⟨⟨escape, behind⟩, taken, isEscape⟩ := Option.bind_eq_some_iff.mp known
  obtain ⟨rfl, size⟩ := cutAt?_eq_some_iff.mp taken
  obtain ⟨rfl, rfl⟩ := cutAt?_eq_some_iff.mp cut
  refine ⟨escape, behind, isEscape, rfl, cutAt?_eq_some_iff.mpr ⟨?_, ?_⟩⟩
  · rw [String.append_assoc]
  · rw [String.utf8ByteSize_append, ← size]

/-- A character that stands for itself is read as itself. -/
theorem unescape?_cons {c : Char} (unmarked : ¬Marked c) (l : List Char) :
    unescape? (c :: l) = (unescape? l).map (c :: ·) := by
  have differ : c ≠ '=' := fun same => unmarked (.inl same)
  rw [unescape?, if_neg unmarked]
  · exact fun _ same => absurd same differ
  · exact fun _ same => absurd same differ

/-- A run of such characters is taken over as it stands. -/
theorem unescape?_append {plain : List Char} (unmarked : ∀ c ∈ plain, ¬Marked c) (l : List Char) :
    unescape? (plain ++ l) = (unescape? l).map (plain ++ ·) := by
  induction plain with
  | nil => simp
  | cons c plain ih =>
    obtain ⟨self, tail⟩ := List.forall_mem_cons.mp unmarked
    rw [List.cons_append, unescape?_cons self, ih tail, Option.map_map]
    rfl

theorem unescape?_of_unmarked {l : List Char} (unmarked : ∀ c ∈ l, ¬Marked c) :
    unescape? l = some l := by
  have whole := unescape?_append unmarked []
  rwa [List.append_nil, unescape?, Option.map_some, List.append_nil] at whole

/-- An escape is read as the character that it stands for. -/
theorem unescape?_of_escaped? {escape : String} {c : Char} (known : escaped? escape = some c)
    (l : List Char) : unescape? (escape.toList ++ l) = (unescape? l).map (c :: ·) := by
  unfold escaped? at known
  split at known
  · next comma =>
    cases known
    rw [comma]
    rfl
  · split at known
    · next equals =>
      cases known
      rw [equals]
      rfl
    · contradiction

/-- A mark that begins no escape is refused. -/
theorem unescape?_of_marked {text : String} {c : Char} {l : List Char}
    (starts : text.toList = c :: l) (marked : Marked c)
    (unknown : (cutAt? text 3).bind (escaped? ·.1) = none) : unescape? (c :: l) = none := by
  have begins (escape : String) {d : Char} {rest : List Char} (known : escaped? escape = some d)
      (size : 3 = escape.utf8ByteSize) : c :: l ≠ escape.toList ++ rest := by
    intro same
    have cut : cutAt? text 3 = some (escape, String.ofList rest) := by
      refine cutAt?_eq_some_iff.mpr ⟨?_, size⟩
      rw [← String.toList_inj, starts, same, String.toList_append, String.toList_ofList]
    rw [cut, Option.bind_some, known] at unknown
    contradiction
  rw [unescape?, if_pos marked]
  · rintro rest rfl rfl
    exact begins "=3D" rfl (by decide) rfl
  · rintro rest rfl rfl
    exact begins "=2C" rfl (by decide) rfl

/-- **No cut of the walk goes wrong**, and behind what has been decoded it reads what is read
character by character. -/
theorem walk_eq (decoded rest : String) :
    walk decoded rest = .ok ((unescape? rest.toList).map fun l => decoded ++ String.ofList l) := by
  fun_induction walk decoded rest with
  | case1 decoded rest unfound =>
    rw [unescape?_of_unmarked (not_marked_of_mark? unfound), Option.map_some, String.ofList_toList]
  -- the two cases in which a cut goes wrong, here and below, do not occur
  | case2 decoded rest position found uncut =>
    obtain ⟨_, _, _, _, atMark, -⟩ := cutAt?_of_mark? found
    rw [atMark] at uncut
    contradiction
  | case3 decoded rest position found plain marked cut unknown =>
    obtain ⟨_, _, c, l, atMark, unmarked, starts, isMark⟩ := cutAt?_of_mark? found
    cases cut.symm.trans atMark
    obtain ⟨rfl, -⟩ := cutAt?_eq_some_iff.mp cut
    rw [String.toList_append, unescape?_append unmarked, starts,
      unescape?_of_marked starts isMark unknown]
    rfl
  | case4 decoded rest position found plain marked cut c known uncut =>
    obtain ⟨_, _, _, _, behindEscape⟩ := cutAt?_of_escaped? cut known
    rw [behindEscape] at uncut
    contradiction
  | case5 decoded rest position found plain marked cut c known before behind cutBehind ih =>
    obtain ⟨_, _, _, _, atMark, unmarked, -⟩ := cutAt?_of_mark? found
    cases cut.symm.trans atMark
    obtain ⟨escape, _, isEscape, rfl, behindEscape⟩ := cutAt?_of_escaped? cut known
    cases cutBehind.symm.trans behindEscape
    obtain ⟨rfl, -⟩ := cutAt?_eq_some_iff.mp cut
    rw [ih, String.toList_append, unescape?_append unmarked, String.toList_append,
      unescape?_of_escaped? isEscape, Option.map_map, Option.map_map]
    congr 2
    funext l
    rw [← String.toList_inj]
    simp

/-- **The walk never cuts a character in two, and reads what is read character by character.** -/
theorem decodeAlong_eq (written : String) : decodeAlong written = .ok (decode? written) := by
  rw [decodeAlong, decode?, ofChars?]
  by_cases empty : written = ""
  · rw [if_pos empty, if_pos (String.toList_eq_nil_iff.mpr empty)]
  · rw [if_neg empty, if_neg (mt String.toList_eq_nil_iff.mp empty), walk_eq]
    simp

/-- The look at three octets ends inside a character here, and there is no escape. -/
example : cutAt? "=€" 3 = none ∧ decodeAlong "=€" = .ok none := by
  refine ⟨by decide, ?_⟩
  rw [decodeAlong_eq]
  rfl

end Scram.SaslName
