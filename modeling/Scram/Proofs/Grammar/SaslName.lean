import Scram.SaslName.Walk

/-!
# Names and their written forms

A usable name has exactly one written form, and nothing else is read as a name
(`ofChars?_eq_some_iff`). Since the written form has no comma, a name cannot reach beyond its
attribute whatever characters it has (`comma_not_mem_escaped`).

Writing and reading are each said in a second way. The written form comes of two replacements, one
after the other (`escaped_eq_replaced`). What is read can be told from the text alone, without
reading it: each of its equals signs begins an escape (`isSome_unescape?_iff`).
-/

namespace Scram.SaslName

/-- No character is written with a comma, the comma included. -/
theorem comma_not_mem_escape (c : Char) : ',' ∉ escape c := by
  unfold escape
  split
  · decide
  · split
    · decide
    · next differ => simpa using Ne.symm differ

/-- A written name has no comma. -/
theorem comma_not_mem_escaped (l : List Char) : ',' ∉ l.flatMap escape := by
  rw [List.mem_flatMap]
  intro given
  obtain ⟨c, -, h⟩ := given
  exact comma_not_mem_escape c h

theorem encode_toList (name : String) : (encode name).toList = name.toList.flatMap escape :=
  String.toList_ofList

theorem comma_not_mem_encode (name : String) : ',' ∉ (encode name).toList := by
  rw [encode_toList]
  exact comma_not_mem_escaped _

/-- Every character leaves something of itself. -/
theorem escape_ne_nil (c : Char) : escape c ≠ [] := by
  unfold escape
  split
  · decide
  · split <;> simp

/-- No escape begins another, so that escapes in a row are told apart. -/
theorem escape_append_inj {c c' : Char} {l l' : List Char}
    (same : escape c ++ l = escape c' ++ l') : c = c' ∧ l = l' := by
  grind [escape]

/-- Different rows of characters are written differently. -/
theorem escaped_injective {l l' : List Char} (same : l.flatMap escape = l'.flatMap escape) :
    l = l' := by
  induction l generalizing l' with
  | nil =>
    cases l' with
    | nil => rfl
    | cons c' l' =>
      rw [List.flatMap_nil, List.flatMap_cons, eq_comm, List.append_eq_nil_iff] at same
      exact absurd same.1 (escape_ne_nil c')
  | cons c l ih =>
    cases l' with
    | nil =>
      rw [List.flatMap_nil, List.flatMap_cons, List.append_eq_nil_iff] at same
      exact absurd same.1 (escape_ne_nil c)
    | cons c' l' =>
      rw [List.flatMap_cons, List.flatMap_cons] at same
      obtain ⟨rfl, rest⟩ := escape_append_inj same
      rw [ih rest]

/-- Different names are written differently, usable or not. -/
theorem encode_injective {name name' : String} (same : encode name = encode name') :
    name = name' := by
  rw [← String.toList_inj, encode_toList, encode_toList] at same
  exact String.toList_inj.mp (escaped_injective same)

/-- What was written reads back, unless it has the zero character, which no reader takes. -/
theorem unescape?_escaped {l : List Char} (usable : '\x00' ∉ l) :
    unescape? (l.flatMap escape) = some l := by
  induction l with
  | nil => rfl
  | cons c l ih =>
    obtain ⟨differ, absent⟩ := not_or.mp (mt List.mem_cons.mpr usable)
    have tail := ih absent
    rw [List.flatMap_cons]
    by_cases equals : c = '='
    · subst equals
      simp [escape, unescape?, tail]
    · by_cases comma : c = ','
      · subst comma
        simp [escape, unescape?, tail]
      · simp only [escape, if_neg equals, if_neg comma, List.singleton_append]
        rw [unescape?_cons (by simp [equals, comma, Ne.symm differ]), tail, Option.map_some]

/-- Whatever is read is the written form of what it is read as, and has no zero character. -/
theorem escaped_of_unescape? {l name : List Char} (read : unescape? l = some name) :
    '\x00' ∉ name ∧ l = name.flatMap escape := by
  -- along the reading: the end, the two escapes, a character that cannot stand, and any other
  fun_induction unescape? l generalizing name with
  | case1 =>
    cases read
    simp
  | case2 rest ih =>
    obtain ⟨tail, found, rfl⟩ := Option.map_eq_some_iff.mp read
    obtain ⟨absent, rfl⟩ := ih found
    exact ⟨by simpa using absent, by simp [escape]⟩
  | case3 rest ih =>
    obtain ⟨tail, found, rfl⟩ := Option.map_eq_some_iff.mp read
    obtain ⟨absent, rfl⟩ := ih found
    exact ⟨by simpa using absent, by simp [escape]⟩
  | case4 => contradiction
  | case5 c rest _ _ plain ih =>
    obtain ⟨tail, found, rfl⟩ := Option.map_eq_some_iff.mp read
    obtain ⟨absent, rfl⟩ := ih found
    simp only [not_or] at plain
    exact ⟨by simp [absent, Ne.symm plain.2.2], by simp [escape, plain.1, plain.2.1]⟩

/-- **Reading accepts exactly the written forms of usable names.** -/
theorem ofChars?_eq_some_iff {l : List Char} {name : String} :
    ofChars? l = some name ↔ Usable name ∧ l = name.toList.flatMap escape := by
  unfold ofChars?
  constructor
  · intro read
    split at read
    · contradiction
    · next nonempty =>
      obtain ⟨chars, found, rfl⟩ := Option.map_eq_some_iff.mp read
      obtain ⟨absent, rfl⟩ := escaped_of_unescape? found
      rw [Usable, String.toList_ofList]
      refine ⟨⟨?_, absent⟩, rfl⟩
      intro empty
      rw [String.ofList_eq_empty_iff] at empty
      subst empty
      exact nonempty rfl
  · intro given
    obtain ⟨⟨nonempty, absent⟩, rfl⟩ := given
    rw [if_neg, unescape?_escaped absent, Option.map_some, String.ofList_toList]
    intro empty
    cases chars : name.toList with
    | nil => exact nonempty (String.toList_eq_nil_iff.mp chars)
    | cons c l =>
      rw [chars, List.flatMap_cons, List.append_eq_nil_iff] at empty
      exact escape_ne_nil c empty.1

/-- What was written of a name reads back as the name, or as none where it is not usable. -/
theorem ofChars?_escaped (name : String) :
    ofChars? (name.toList.flatMap escape) = if Usable name then some name else none := by
  split
  · next usable => exact ofChars?_eq_some_iff.mpr ⟨usable, rfl⟩
  · next unusable =>
    rw [Option.eq_none_iff_forall_ne_some]
    intro name' read
    obtain ⟨usable, same⟩ := ofChars?_eq_some_iff.mp read
    rw [String.toList_inj.mp (escaped_injective same)] at unusable
    exact unusable usable

/-! ## The two replacements -/

/-- The characters, with `form` in the place of each `c`. -/
def replaced (c : Char) (form l : List Char) : List Char :=
  l.flatMap fun d => if d = c then form else [d]

/-- The escapes of the equals signs come first: those of the commas have equals signs of their own,
which must stay. -/
theorem escaped_eq_replaced (l : List Char) :
    l.flatMap escape = replaced ',' ['=', '2', 'C'] (replaced '=' ['=', '3', 'D'] l) := by
  unfold replaced
  rw [List.flatMap_assoc]
  congr 1
  funext c
  unfold escape
  split
  · rfl
  · rw [List.flatMap_singleton]

/-! ## Texts that are read -/

/-- What stands behind an equals sign that begins an escape. -/
abbrev EndsEscape (l : List Char) : Prop := ['2', 'C'] <+: l ∨ ['3', 'D'] <+: l

/-- Every equals sign begins an escape. -/
def Escapes (l : List Char) : Prop := ∀ behind, '=' :: behind <:+ l → EndsEscape behind

/-- The first character needs an escape to go on only if it is an equals sign; the rest is asked for
itself. -/
theorem escapes_cons {c : Char} {l : List Char} :
    Escapes (c :: l) ↔ (c = '=' → EndsEscape l) ∧ Escapes l := by
  constructor
  · intro all
    refine ⟨?_, fun behind suffix => all behind (suffix.trans (List.suffix_cons c l))⟩
    rintro rfl
    exact all l (List.suffix_refl _)
  · intro given behind suffix
    obtain ⟨here, later⟩ := given
    obtain same | suffix := List.suffix_cons_iff.mp suffix
    · obtain ⟨equals, rfl⟩ := List.cons.inj same
      exact here equals.symm
    · exact later behind suffix

theorem escapes_cons_of_ne {c : Char} {l : List Char} (differ : c ≠ '=') :
    Escapes (c :: l) ↔ Escapes l := by
  rw [escapes_cons]
  exact and_iff_right fun equals => absurd equals differ

/-- An escape is passed over as a whole: its two characters begin none. -/
theorem escapes_escape {d e : Char} {rest : List Char} (ends : EndsEscape (d :: e :: rest))
    (hd : d ≠ '=') (he : e ≠ '=') : Escapes ('=' :: d :: e :: rest) ↔ Escapes rest := by
  rw [escapes_cons, escapes_cons_of_ne hd, escapes_cons_of_ne he]
  exact and_iff_right fun _ => ends

/-- What is read can be told from the text: no comma, no zero character, and an escape at every
equals sign. -/
theorem isSome_unescape?_iff {l : List Char} :
    (unescape? l).isSome ↔ ',' ∉ l ∧ '\x00' ∉ l ∧ Escapes l := by
  fun_induction unescape? l with
  | case1 => simp [Escapes]
  | case2 rest ih =>
    have ends : EndsEscape ('3' :: 'D' :: rest) := .inr (List.prefix_append ['3', 'D'] rest)
    rw [Option.isSome_map, ih, escapes_escape ends (by decide) (by decide)]
    simp
  | case3 rest ih =>
    have ends : EndsEscape ('2' :: 'C' :: rest) := .inl (List.prefix_append ['2', 'C'] rest)
    rw [Option.isSome_map, ih, escapes_escape ends (by decide) (by decide)]
    simp
  | case4 c rest notEquals notComma marked =>
    refine iff_of_false (by simp) ?_
    rintro ⟨commaFree, zeroFree, escapes⟩
    rcases marked with rfl | rfl | rfl
    · rcases (escapes_cons.mp escapes).1 rfl with ⟨behind, same⟩ | ⟨behind, same⟩
      · exact notComma behind rfl same.symm
      · exact notEquals behind rfl same.symm
    · exact commaFree List.mem_cons_self
    · exact zeroFree List.mem_cons_self
  | case5 c rest _ _ plain ih =>
    simp only [not_or] at plain
    obtain ⟨notEquals, notComma, notZero⟩ := plain
    rw [Option.isSome_map, ih, escapes_cons_of_ne notEquals, List.mem_cons, List.mem_cons, not_or,
      not_or, and_iff_right (Ne.symm notComma), and_iff_right (Ne.symm notZero)]

/-- Nothing is read of an empty text; of another, a name is read exactly if it has no comma and no
zero character and each of its equals signs begins an escape. -/
theorem isSome_decode?_iff {written : String} :
    (decode? written).isSome ↔ written ≠ "" ∧ ',' ∉ written.toList ∧ '\x00' ∉ written.toList ∧
      Escapes written.toList := by
  rw [decode?, ofChars?, ← isSome_unescape?_iff]
  by_cases empty : written = ""
  · simp [empty]
  · rw [if_neg (mt String.toList_eq_nil_iff.mp empty), Option.isSome_map]
    exact (and_iff_right empty).symm

/-- **Writing and reading are inverse to one another, between the usable names and the texts in which
every equals sign begins an escape.** The written form comes of the two replacements, the escapes of
the equals signs first. It is read back as the name that was written, and as none where the name is
empty or has a zero character. What is read as a name is the written form of that name and of no
other, and what is read at all can be told from the text. A reader that goes along the octets reads
the same, and never comes to cut a character in two. -/
theorem writing_reading_inverse :
    (∀ name, (encode name).toList =
      replaced ',' ['=', '2', 'C'] (replaced '=' ['=', '3', 'D'] name.toList)) ∧
    (∀ name, decode? (encode name) = if name ≠ "" ∧ '\x00' ∉ name.toList then some name else none) ∧
    (∀ written name, decode? written = some name → encode name = written) ∧
    (∀ written, (decode? written).isSome ↔ written ≠ "" ∧ ',' ∉ written.toList ∧
      '\x00' ∉ written.toList ∧ Escapes written.toList) ∧
    ∀ written, decodeAlong written = .ok (decode? written) := by
  refine ⟨fun name => ?_, fun name => ?_, fun written name read => ?_,
    fun _ => isSome_decode?_iff, decodeAlong_eq⟩
  · rw [encode_toList, escaped_eq_replaced]
  · rw [decode?, encode_toList]
    exact ofChars?_escaped name
  · obtain ⟨-, same⟩ := ofChars?_eq_some_iff.mp read
    rw [← String.toList_inj, encode_toList, same]

end Scram.SaslName
