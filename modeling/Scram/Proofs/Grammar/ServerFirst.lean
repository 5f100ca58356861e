import Mathlib.Data.Nat.Digits.Defs
import Scram.Message.ServerFirst
import Scram.Proofs.Grammar.Base64
import Scram.Proofs.Grammar.Nonce

/-!
# The grammar of the server's first message

Three attributes in a fixed order and whatever follows them: `parse_eq_ok_iff` says which texts
are read, and as what. A server's own text is one of them and reads back as what it was made of
(`parse_text_append`), for every salt and every count.

The count is the one attribute whose reading is arithmetic. `IterationCount.decimalValue` is the
number that digits write, without a bound, and a count is read where that number is one of the counts
(`IterationCount.ofChars?_eq_some_iff`); a greater one is refused and never cut down to size.
`parse_attributes_exact` puts both together.
-/

namespace Scram

/-! ## Iteration counts -/

namespace IterationCount

/-- A count is written in digits only. -/
theorem isDigit_of_mem_text {count : IterationCount} {c : Char} (h : c ∈ count.text.toList) :
    c.isDigit := by
  rw [text, Nat.toList_repr] at h
  exact Nat.isDigit_of_mem_toDigits (by decide) (by decide) h

theorem comma_not_mem_text (count : IterationCount) : ',' ∉ count.text.toList := by
  intro h
  exact absurd (isDigit_of_mem_text h) (by decide)

/-- The digits of a count are read back as the count. -/
theorem ofDigits?_text (count : IterationCount) : ofDigits? count.text.toList = some count := by
  have digits : count.text.toList.all Char.isDigit :=
    List.all_eq_true.mpr fun _ h => isDigit_of_mem_text h
  have value : Nat.ofDigitChars 10 count.text.toList 0 = count.toNat := by
    rw [text, Nat.toList_repr, Nat.ofDigitChars_ten_toDigits]
  have nonempty : count.text.toList ≠ [] := by
    rw [text, Nat.toList_repr]
    exact Nat.toDigits_ne_nil
  rw [ofDigits?, if_pos ⟨nonempty, digits⟩, value, ofNat?_toNat]

/-- The number that decimal digits write: each counts by the power of ten of its place. -/
def decimalValue (digits : List Char) : Nat :=
  Nat.ofDigits 10 (digits.map fun c => c.toNat - '0'.toNat).reverse

/-- Reading digits one after another moves what was read before them up by as many places. -/
theorem ofDigitChars_eq (digits : List Char) (init : Nat) :
    Nat.ofDigitChars 10 digits init = 10 ^ digits.length * init + decimalValue digits := by
  induction digits generalizing init with
  | nil => simp [decimalValue]
  | cons c digits ih =>
    have value : decimalValue (c :: digits) =
        decimalValue digits + 10 ^ digits.length * (c.toNat - '0'.toNat) := by
      simp only [decimalValue, List.map_cons, Nat.ofDigits_reverse_cons, List.length_map]
    rw [Nat.ofDigitChars_cons, ih, value, List.length_cons, Nat.pow_succ, Nat.mul_add]
    ac_rfl

/-- Digits are read as the number that they write, where that is a count. -/
theorem ofDigits?_eq {digits : List Char} (nonempty : digits ≠ [])
    (decimal : ∀ c ∈ digits, c.isDigit) : ofDigits? digits = ofNat? (decimalValue digits) := by
  rw [ofDigits?, if_pos ⟨nonempty, List.all_eq_true.mpr decimal⟩, ofDigitChars_eq]
  simp

/-- A plus sign before the digits makes no difference. -/
theorem ofChars?_append {sign digits : List Char} (signOk : sign = [] ∨ sign = ['+'])
    (decimal : ∀ c ∈ digits, c.isDigit) : ofChars? (sign ++ digits) = ofDigits? digits := by
  rcases signOk with rfl | rfl
  · rw [List.nil_append]
    fun_cases ofChars? digits with
    -- digits alone cannot be mistaken for a sign with digits behind it
    | case1 digits => exact absurd (decimal '+' List.mem_cons_self) (by decide)
    | case2 => rfl
  · rfl

theorem ofChars?_text (count : IterationCount) : ofChars? count.text.toList = some count :=
  (ofChars?_append (.inl rfl) fun _ => isDigit_of_mem_text).trans count.ofDigits?_text

/-- What is read as a count was digits, and they write its number. -/
theorem ofDigits?_eq_some {digits : List Char} {count : IterationCount}
    (read : ofDigits? digits = some count) :
    digits ≠ [] ∧ (∀ c ∈ digits, c.isDigit) ∧ decimalValue digits = count.toNat := by
  have given : digits ≠ [] ∧ digits.all Char.isDigit := by
    by_contra other
    rw [ofDigits?, if_neg other] at read
    contradiction
  have decimal := List.all_eq_true.mp given.2
  rw [ofDigits?_eq given.1 decimal, ofNat?_eq_some_iff] at read
  exact ⟨given.1, decimal, read.symm⟩

/-- A count is read from its digits, as many as there are, with a plus sign before them or none. -/
theorem ofChars?_eq_some_iff {l : List Char} {count : IterationCount} :
    ofChars? l = some count ↔ ∃ sign digits, l = sign ++ digits ∧ (sign = [] ∨ sign = ['+']) ∧
      digits ≠ [] ∧ (∀ c ∈ digits, c.isDigit) ∧ decimalValue digits = count.toNat := by
  constructor
  · fun_cases ofChars? l with
    | case1 digits =>
      intro read
      exact ⟨['+'], digits, rfl, .inr rfl, ofDigits?_eq_some read⟩
    | case2 =>
      intro read
      exact ⟨[], l, rfl, .inl rfl, ofDigits?_eq_some read⟩
  · intro given
    obtain ⟨sign, digits, rfl, signOk, nonempty, decimal, value⟩ := given
    rw [ofChars?_append signOk decimal, ofDigits?_eq nonempty decimal, ofNat?_eq_some_iff, value]

/-- Two kinds of numbers are no counts: zero, and those beyond 32 bits. -/
theorem ofNat?_eq_none_iff {n : Nat} : ofNat? n = none ↔ n = 0 ∨ 4294967295 < n := by
  rw [ofNat?, dite_eq_right_iff]
  simp only [reduceCtorEq, imp_false]
  omega

end IterationCount

namespace ServerFirst

/-- A first message of a server as it may be written: the salt and the count in any spelling that
reads as theirs, and what follows them is nothing, or a comma and any text. -/
structure WellFormed (m : ServerFirst) (salt count extensions : String) : Prop where
  nonce : isNonce (utf8 m.nonce)
  comma_not_mem_salt : ',' ∉ salt.toList
  salt : Base64.decode? (utf8 salt) = some m.salt
  comma_not_mem_count : ',' ∉ count.toList
  count : IterationCount.ofChars? count.toList = some m.iterations
  extensions : Cut.Tail ',' extensions.toList

/-- The message with these spellings. -/
def writtenText (nonce salt count extensions : String) : String :=
  "r=" ++ nonce ++ ",s=" ++ salt ++ ",i=" ++ count ++ extensions

/-- The message by its two commas between the attributes, and whatever is behind the count. -/
theorem writtenText_toList (nonce salt count extensions : String) :
    (writtenText nonce salt count extensions).toList =
      ("r=".toList ++ nonce.toList) ++ ',' :: (("s=".toList ++ salt.toList) ++
        ',' :: (("i=".toList ++ count.toList) ++ extensions.toList)) := by
  simp [writtenText]

/-- A value is found in the part that is its key and the value. -/
theorem valueAt_eq_ok_iff {key : String} {field : Field} {part : Option (List Char)}
    {value : List Char} :
    valueAt key field part = .ok value ↔ part = some (key.toList ++ value) := by
  rw [valueAt, expect_eq_ok_iff, Option.bind_eq_some_iff]
  simp [Cut.after?_eq_some_iff]

/-- How a message is read whose first two attributes are in the grammar: its count decides. -/
theorem parse_writtenText {nonce salt count extensions : String} {octets : Bytes}
    (nonceOk : isNonce (utf8 nonce)) (comma_not_mem_salt : ',' ∉ salt.toList)
    (saltOk : Base64.decode? (utf8 salt) = some octets) (comma_not_mem_count : ',' ∉ count.toList)
    (tail : Cut.Tail ',' extensions.toList) :
    parse (writtenText nonce salt count extensions) =
      (expect (IterationCount.ofChars? count.toList) (.invalid .iterations)).map
        ({ nonce, salt := octets, iterations := · }) := by
  have nonceComma : ',' ∉ "r=".toList ++ nonce.toList :=
    List.not_mem_append (by decide) (comma_not_mem_toList_of_isNonce nonceOk)
  have saltComma : ',' ∉ "s=".toList ++ salt.toList :=
    List.not_mem_append (by decide) comma_not_mem_salt
  have countComma : ',' ∉ "i=".toList ++ count.toList :=
    List.not_mem_append (by decide) comma_not_mem_count
  obtain ⟨parts, split⟩ := Cut.splitOn_append_tail countComma tail
  have value (key : String) (field : Field) (written : List Char) :
      valueAt key field (some (key.toList ++ written)) = .ok written := valueAt_eq_ok_iff.mpr rfl
  have unmarked : Cut.after? "m=".toList (writtenText nonce salt count extensions).toList = none := by
    rw [writtenText_toList]
    rfl
  rw [parse, bind_of_ok (a := ()) (ensure_eq_ok_iff.mpr unmarked), writtenText_toList,
    List.splitOn_append_cons_self_of_not_mem nonceComma,
    List.splitOn_append_cons_self_of_not_mem saltComma, split]
  dsimp only [List.getElem?_cons_zero, List.getElem?_cons_succ]
  rw [bind_of_ok (value "r=" .nonce nonce.toList), String.ofList_toList,
    bind_of_ok (a := ()) (ensure_eq_ok_iff.mpr nonceOk), bind_of_ok (value "s=" .salt salt.toList),
    String.ofList_toList, bind_of_ok (expect_eq_ok_iff.mpr saltOk),
    bind_of_ok (value "i=" .iterations count.toList)]
  rfl

/-- **Reading accepts exactly the three attributes in their order**, with anything behind them. -/
theorem parse_eq_ok_iff {message : String} {m : ServerFirst} :
    parse message = .ok m ↔ ∃ salt count extensions, WellFormed m salt count extensions ∧
      message = writtenText m.nonce salt count extensions := by
  constructor
  · intro read
    simp only [parse, bind_eq_ok_iff, expect_eq_ok_iff, ensure_eq_ok_iff, valueAt_eq_ok_iff] at read
    obtain ⟨-, -, nonce, first, -, nonceOk, salt, second, octets, saltOk, count, third,
      iterations, countOk, same⟩ := read
    cases same
    -- the parts of the split message one after another; each takes its comma with it, and the
    -- numbers of those behind it move down
    obtain ⟨l, text, shift⟩ := Cut.exists_rest_of_splitOn first second
    rw [← shift] at second third
    obtain ⟨saltComma, -⟩ := Cut.exists_tail_of_splitOn second
    obtain ⟨l', rfl, shift'⟩ := Cut.exists_rest_of_splitOn second third
    rw [← shift'] at third
    obtain ⟨countComma, extensions, tail, rfl⟩ := Cut.exists_tail_of_splitOn third
    refine ⟨String.ofList salt, String.ofList count, String.ofList extensions,
      ⟨nonceOk, ?_, saltOk, ?_, ?_, ?_⟩, ?_⟩
    · rw [String.toList_ofList]
      exact mt (List.mem_append_right _) saltComma
    · rw [String.toList_ofList]
      exact mt (List.mem_append_right _) countComma
    · rwa [String.toList_ofList]
    · rwa [String.toList_ofList]
    · rw [← String.toList_inj, writtenText_toList, text]
      simp
  · intro given
    obtain ⟨salt, count, extensions, h, rfl⟩ := given
    rw [parse_writtenText h.nonce h.comma_not_mem_salt h.salt h.comma_not_mem_count h.extensions,
      h.count]
    rfl

/-- A first message, by its attributes. -/
theorem attributes_writtenText {m : ServerFirst} {salt count extensions : String}
    (h : WellFormed m salt count extensions) :
    attributes (utf8 (writtenText m.nonce salt count extensions)) =
      attrVal 'r' (utf8 m.nonce) :: attrVal 's' (utf8 salt) :: attrVal 'i' (utf8 count) ::
        (attributes (utf8 extensions)).tail := by
  have saltComma : comma ∉ utf8 salt := comma_not_mem_utf8 h.comma_not_mem_salt
  have countComma : comma ∉ utf8 count := comma_not_mem_utf8 h.comma_not_mem_count
  have parts : utf8 (writtenText m.nonce salt count extensions) =
      attrVal 'r' (utf8 m.nonce) ++ comma :: (attrVal 's' (utf8 salt) ++
        comma :: (attrVal 'i' (utf8 count) ++ utf8 extensions)) := by
    have r (value : Bytes) : attrVal 'r' value = utf8 "r=" ++ value := rfl
    have s (value : Bytes) : comma :: attrVal 's' value = utf8 ",s=" ++ value := rfl
    have i (value : Bytes) : comma :: attrVal 'i' value = utf8 ",i=" ++ value := rfl
    rw [← List.cons_append, ← List.cons_append, r, s, i]
    simp only [writtenText, utf8_append, List.append_assoc]
  rw [parts, attributes_append, attributes_append,
    attributes_of_not_mem (comma_not_mem_attrVal (comma_not_mem_of_isNonce h.nonce)),
    attributes_of_not_mem (comma_not_mem_attrVal saltComma),
    attributes_append_tail (comma_not_mem_attrVal countComma) (tail_utf8 h.extensions)]
  rfl

/-- What a server writes is in the grammar, with the plain spellings, and remains in it with any
attributes behind it. -/
theorem wellFormed_text_append {m : ServerFirst} {extensions : String}
    (nonce : isNonce (utf8 m.nonce)) (tail : Cut.Tail ',' extensions.toList) :
    WellFormed m (Base64.text m.salt) m.iterations.text extensions where
  nonce := nonce
  comma_not_mem_salt := Base64.comma_not_mem_text m.salt
  salt := by rw [Base64.utf8_text, Base64.decode?_encode]
  comma_not_mem_count := m.iterations.comma_not_mem_text
  count := m.iterations.ofChars?_text
  extensions := tail

theorem wellFormed_text {m : ServerFirst} (nonce : isNonce (utf8 m.nonce)) :
    WellFormed m (Base64.text m.salt) m.iterations.text "" :=
  wellFormed_text_append nonce (.inl rfl)

/-- A server writes the plain spellings, and what is put behind its message stands for
extensions. -/
theorem text_append_eq (m : ServerFirst) (extensions : String) :
    text m ++ extensions = writtenText m.nonce (Base64.text m.salt) m.iterations.text extensions := by
  simp [text, writtenText]

theorem text_eq (m : ServerFirst) :
    text m = writtenText m.nonce (Base64.text m.salt) m.iterations.text "" := by
  rw [← text_append_eq, String.append_empty]

/-- What a server writes reads back as what it was made of, whatever attributes are put behind
it. -/
theorem parse_text_append {m : ServerFirst} {extensions : String} (nonce : isNonce (utf8 m.nonce))
    (tail : Cut.Tail ',' extensions.toList) : parse (text m ++ extensions) = .ok m :=
  parse_eq_ok_iff.mpr ⟨_, _, _, wellFormed_text_append nonce tail, text_append_eq m extensions⟩

theorem parse_text {m : ServerFirst} (nonce : isNonce (utf8 m.nonce)) : parse (text m) = .ok m :=
  parse_eq_ok_iff.mpr ⟨_, _, _, wellFormed_text nonce, text_eq m⟩

/-! ## The grammar, letter by letter -/

/-- What may stand in the attributes of a message, in the terms of its text: the count is digits of
any number, and a plus sign before them or none. What the digits come to is left open. -/
structure Spelled (nonce salt sign digits extensions : String) (octets : Bytes) : Prop where
  nonce : nonce ≠ "" ∧ ∀ c ∈ nonce.toList, '!' ≤ c ∧ c ≤ '~' ∧ c ≠ ','
  comma_not_mem_salt : ',' ∉ salt.toList
  salt : Base64.decode? (utf8 salt) = some octets
  sign : sign = "" ∨ sign = "+"
  digits : digits ≠ "" ∧ ∀ c ∈ digits.toList, c.isDigit
  extensions : extensions = "" ∨ ∃ more, extensions = "," ++ more

namespace Spelled

variable {nonce salt sign digits extensions : String} {octets : Bytes}

theorem toList_sign (h : Spelled nonce salt sign digits extensions octets) :
    sign.toList = [] ∨ sign.toList = ['+'] := by
  rcases h.sign with rfl | rfl
  · exact .inl rfl
  · exact .inr rfl

theorem comma_not_mem_count (h : Spelled nonce salt sign digits extensions octets) :
    ',' ∉ (sign ++ digits).toList := by
  rw [String.toList_append]
  refine List.not_mem_append ?_ fun mem => absurd (h.digits.2 ',' mem) (by decide)
  rcases h.toList_sign with empty | plus
  · simp [empty]
  · simp [plus]

/-- A spelled count is read as the number that its digits write. -/
theorem ofChars?_count (h : Spelled nonce salt sign digits extensions octets) :
    IterationCount.ofChars? (sign ++ digits).toList =
      IterationCount.ofNat? (IterationCount.decimalValue digits.toList) := by
  have nonempty : digits.toList ≠ [] := mt String.toList_eq_nil_iff.mp h.digits.1
  rw [String.toList_append, IterationCount.ofChars?_append h.toList_sign h.digits.2,
    IterationCount.ofDigits?_eq nonempty h.digits.2]

/-- Where the attributes are spelled so, the value of the digits is all that is left to decide. -/
theorem parse_eq (h : Spelled nonce salt sign digits extensions octets) :
    parse (writtenText nonce salt (sign ++ digits) extensions) =
      (expect (IterationCount.ofNat? (IterationCount.decimalValue digits.toList))
        (.invalid .iterations)).map ({ nonce, salt := octets, iterations := · }) := by
  rw [← h.ofChars?_count]
  exact parse_writtenText ((isNonce_utf8_iff nonce).mpr h.nonce) h.comma_not_mem_salt h.salt
    h.comma_not_mem_count (tail_toList_iff.mpr h.extensions)

/-- Where the attributes are spelled so, a message is read as these attributes, and its count is the
number of the digits. -/
theorem parse_eq_ok_iff (h : Spelled nonce salt sign digits extensions octets) {m : ServerFirst} :
    parse (writtenText nonce salt (sign ++ digits) extensions) = .ok m ↔
      m.nonce = nonce ∧ m.salt = octets ∧
        m.iterations.toNat = IterationCount.decimalValue digits.toList := by
  obtain ⟨n, b, count⟩ := m
  rw [h.parse_eq, ← IterationCount.ofNat?_eq_some_iff]
  cases IterationCount.ofNat? (IterationCount.decimalValue digits.toList) with
  | none => simp [expect, Except.map]
  | some read => simp [expect, Except.map, eq_comm]

end Spelled

/-- What is read was spelled so, and the digits come to its count. -/
theorem WellFormed.exists_spelled {m : ServerFirst} {salt count extensions : String}
    (h : WellFormed m salt count extensions) :
    ∃ sign digits, count = sign ++ digits ∧ Spelled m.nonce salt sign digits extensions m.salt ∧
      IterationCount.decimalValue digits.toList = m.iterations.toNat := by
  obtain ⟨sign, digits, cut, signOk, nonempty, decimal, value⟩ :=
    IterationCount.ofChars?_eq_some_iff.mp h.count
  refine ⟨String.ofList sign, String.ofList digits, ?_, ?_, by rwa [String.toList_ofList]⟩
  · rw [← String.toList_inj, cut]
    simp
  · constructor
    · exact (isNonce_utf8_iff m.nonce).mp h.nonce
    · exact h.comma_not_mem_salt
    · exact h.salt
    · rcases signOk with rfl | rfl
      · exact .inl rfl
      · exact .inr rfl
    · refine ⟨?_, by rwa [String.toList_ofList]⟩
      rwa [ne_eq, ← String.toList_eq_nil_iff, String.toList_ofList]
    · exact tail_toList_iff.mp h.extensions

/-- **A message is read where it is its three attributes, and its count is what its digits come to.**
The digits may be any number, and no value beyond 4294967295 is taken for another one. So what a
server writes reads back as what it was made of, whatever attributes are put behind it. -/
theorem parse_attributes_exact :
    (∀ message nonce octets count,
      (∃ m, parse message = .ok m ∧ m.nonce = nonce ∧ m.salt = octets ∧
          m.iterations.toNat = count) ↔
        ∃ salt sign digits extensions, Spelled nonce salt sign digits extensions octets ∧
          message = "r=" ++ nonce ++ ",s=" ++ salt ++ ",i=" ++ (sign ++ digits) ++ extensions ∧
          IterationCount.decimalValue digits.toList = count ∧ 1 ≤ count ∧ count ≤ 4294967295) ∧
    (∀ m : ServerFirst, (m.nonce ≠ "" ∧ ∀ c ∈ m.nonce.toList, '!' ≤ c ∧ c ≤ '~' ∧ c ≠ ',') →
      ∀ extensions, (extensions = "" ∨ ∃ more, extensions = "," ++ more) →
        parse (text m ++ extensions) = .ok m) ∧
    (∀ nonce salt sign digits extensions octets,
      Spelled nonce salt sign digits extensions octets →
      4294967295 < IterationCount.decimalValue digits.toList →
        parse ("r=" ++ nonce ++ ",s=" ++ salt ++ ",i=" ++ (sign ++ digits) ++ extensions) =
          .error (.invalid .iterations)) := by
  refine ⟨?_, ?_, ?_⟩
  · intro message nonce octets count
    constructor
    · intro given
      obtain ⟨m, read, rfl, rfl, rfl⟩ := given
      obtain ⟨salt, written, extensions, h, text⟩ := parse_eq_ok_iff.mp read
      obtain ⟨sign, digits, rfl, spelled, value⟩ := h.exists_spelled
      exact ⟨salt, sign, digits, extensions, spelled, text, value, m.iterations.pos,
        Nat.le_of_lt_succ m.iterations.lt⟩
    · intro given
      obtain ⟨salt, sign, digits, extensions, spelled, text, value, pos, bound⟩ := given
      refine ⟨⟨nonce, octets, ⟨count, pos, Nat.lt_succ_of_le bound⟩⟩, ?_, rfl, rfl, rfl⟩
      rw [text]
      exact spelled.parse_eq_ok_iff.mpr ⟨rfl, rfl, value.symm⟩
  · intro m nonce extensions tail
    exact parse_text_append ((isNonce_utf8_iff m.nonce).mpr nonce) (tail_toList_iff.mpr tail)
  · intro nonce salt sign digits extensions octets spelled tooGreat
    apply spelled.parse_eq.trans
    rw [IterationCount.ofNat?_eq_none_iff.mpr (.inr tooGreat)]
    rfl

/-! ## What is outside the grammar -/

/-- What is looked for at the beginning is the mark of an extension. -/
theorem marked_iff {message : String} :
    Cut.after? "m=".toList message.toList ≠ none ↔ ∃ rest, message = "m=" ++ rest := by
  rw [ne_eq, Cut.after?_eq_none_iff, not_forall_not]
  constructor
  · intro given
    obtain ⟨rest, marked⟩ := given
    refine ⟨String.ofList rest, ?_⟩
    rw [← String.toList_inj, marked]
    simp
  · intro given
    obtain ⟨rest, rfl⟩ := given
    exact ⟨rest.toList, String.toList_append ..⟩

/-- Where no extension has to be understood, what is outside the grammar is refused for a field. -/
theorem parse_failsOnlyAs_aboutField {message : String}
    (unmarked : ¬∃ rest, message = "m=" ++ rest) :
    FailsOnlyAs Error.IsAboutField (parse message) := by
  have passes := Decidable.not_not.mp (mt marked_iff.mp unmarked)
  rw [parse, bind_of_ok (a := ()) (ensure_eq_ok_iff.mpr passes)]
  refine (failsOnlyAs_expect (.missing .nonce)).bind fun nonce => ?_
  refine (failsOnlyAs_ensure (.invalid .nonce)).bind fun _ => ?_
  refine (failsOnlyAs_expect (.missing .salt)).bind fun written => ?_
  refine (failsOnlyAs_expect (.invalid .salt)).bind fun salt => ?_
  refine (failsOnlyAs_expect (.missing .iterations)).bind fun digits => ?_
  exact (failsOnlyAs_expect (.invalid .iterations)).bind fun _ => failsOnlyAs_ok _

/-- The mark of an extension that must be understood comes before all else, and is no other error. -/
theorem parse_eq_unsupportedExtension_iff {message : String} :
    parse message = .error .unsupportedExtension ↔ ∃ rest, message = "m=" ++ rest := by
  constructor
  · intro failed
    by_contra unmarked
    cases parse_failsOnlyAs_aboutField unmarked _ failed
  · intro marked
    exact bind_of_error (if_neg (marked_iff.mpr marked))

/-- There is no third way to be outside the grammar. -/
theorem parse_error_cases {message : String} {error : Error} (failed : parse message = .error error) :
    error = .unsupportedExtension ∨ error.IsAboutField := by
  by_cases marked : ∃ rest, message = "m=" ++ rest
  · rw [parse_eq_unsupportedExtension_iff.mpr marked] at failed
    cases failed
    exact .inl rfl
  · exact .inr (parse_failsOnlyAs_aboutField marked error failed)

end ServerFirst

end Scram
