import Scram.Message.ClientFirst
import Scram.Proofs.Grammar.Commas
import Scram.Proofs.Grammar.Nonce
import Scram.Proofs.Grammar.SaslName

/-!
# The grammar of the client's first message

What the reader accepts, as a condition on the fields and one equation for the text: the message
is its header and its bare part, and these are what writing the fields makes of them
(`parse_eq_ok_iff`). Both parts are therefore verbatim slices of what was received, and the fields
determine them.

The reader goes through five cuts, and each has a law of its own here; the whole is their
composition.
-/

namespace Scram.ClientFirst

/-! ## What stands in a message -/

/-- A binding that is required has a name, of letters, digits, dots and hyphens. -/
def FlagWellFormed : BindingFlag → Prop
  | .unsupported | .unused => True
  | .required name => name ≠ "" ∧ ∀ c ∈ name.toList, isBindingNameChar c

/-- The authorization identity as it stands between the commas of the header. -/
def authzidText : Option String → String
  | none => ""
  | some authzid => "a=" ++ SaslName.encode authzid

/-- The mandatory extension as it stands before the username. -/
def mandatoryText : Option String → String
  | none => ""
  | some value => "m=" ++ value ++ ","

/-- The extensions as they stand behind the nonce. -/
def extensionsText : Option String → String
  | none => ""
  | some extensions => "," ++ extensions

/-- A first message in which every field is what the grammar has in its place, and whose header and
bare part are those fields written down. -/
structure WellFormed (m : ClientFirst) : Prop where
  flag : FlagWellFormed m.flag
  authzid : ∀ authzid ∈ m.authzid, SaslName.Usable authzid
  mandatoryExtension : ∀ value ∈ m.mandatoryExtension,
    value ≠ "" ∧ ',' ∉ value.toList ∧ '\x00' ∉ value.toList
  username : SaslName.Usable m.username
  nonce : isNonce (utf8 m.nonce)
  header_eq : m.header = headerText m.flag m.authzid
  bare_eq : m.bare =
    mandatoryText m.mandatoryExtension ++ bareText m.username m.nonce ++ extensionsText m.extensions

/-- A header by its two commas: the flag, the identity between them, and nothing behind. -/
theorem headerText_eq (flag : BindingFlag) (authzid : Option String) :
    headerText flag authzid = flag.text ++ ("," ++ authzidText authzid ++ ",") := by
  rw [← String.toList_inj]
  cases authzid <;> simp [headerText, authzidText]

theorem headerText_toList (flag : BindingFlag) (authzid : Option String) :
    (headerText flag authzid).toList =
      flag.text.toList ++ ',' :: ((authzidText authzid).toList ++ [',']) := by
  simp [headerText_eq]

/-! ## The flag -/

/-- A flag is over at the first comma of the header. -/
theorem comma_not_mem_flag {flag : BindingFlag} (h : FlagWellFormed flag) :
    ',' ∉ flag.text.toList := by
  cases flag with
  | unsupported => decide
  | unused => decide
  | required name =>
    have allowed := h.2
    intro mem
    simp only [BindingFlag.text, String.toList_append, List.mem_append] at mem
    rcases mem with mem | mem
    · revert mem
      decide
    · exact absurd (allowed _ mem) (by decide)

/-- The first cut: reading a flag accepts exactly the flags as they are written. -/
theorem parseFlag_eq_ok_iff {l : List Char} {flag : BindingFlag} :
    parseFlag l = .ok flag ↔ FlagWellFormed flag ∧ l = flag.text.toList := by
  constructor
  · intro read
    fun_cases parseFlag l with
    | case1 => contradiction
    | case2 =>
      cases read
      exact ⟨trivial, rfl⟩
    | case3 =>
      cases read
      exact ⟨trivial, rfl⟩
    | case4 name =>
      simp only [parseFlag, bind_eq_ok_iff, ensure_eq_ok_iff] at read
      obtain ⟨-, ⟨nonempty, allowed⟩, same⟩ := read
      cases same
      refine ⟨⟨?_, ?_⟩, by simp [BindingFlag.text]⟩
      · rwa [ne_eq, String.ofList_eq_empty_iff]
      · simpa using allowed
    | case5 => simp_all [parseFlag]
  · intro given
    obtain ⟨wellFormed, rfl⟩ := given
    cases flag with
    | unsupported => rfl
    | unused => rfl
    | required name =>
      obtain ⟨nonempty, allowed⟩ := wellFormed
      have chars : (BindingFlag.required name).text.toList = 'p' :: '=' :: name.toList := by
        simp [BindingFlag.text]
      rw [chars]
      simp only [parseFlag, bind_eq_ok_iff, ensure_eq_ok_iff]
      refine ⟨(), ⟨?_, List.all_eq_true.mpr allowed⟩, by simp [pure, Except.pure]⟩
      rwa [ne_eq, String.toList_eq_nil_iff]

/-! ## The identity asked for -/

/-- An identity is over at the second comma of the header, whatever name it is. -/
theorem comma_not_mem_authzid (authzid : Option String) : ',' ∉ (authzidText authzid).toList := by
  cases authzid with
  | none => decide
  | some authzid =>
    simp only [authzidText, String.toList_append, List.mem_append, not_or]
    exact ⟨by decide, SaslName.comma_not_mem_encode authzid⟩

/-- The second cut: no identity, or the written form of a usable name. -/
theorem parseAuthzid_eq_ok_iff {l : List Char} {authzid : Option String} :
    parseAuthzid l = .ok authzid ↔
      (∀ name ∈ authzid, SaslName.Usable name) ∧ l = (authzidText authzid).toList := by
  cases l with
  | nil => cases authzid <;> simp [parseAuthzid, authzidText]
  | cons c l =>
    simp only [parseAuthzid, bind_eq_ok_iff, expect_eq_ok_iff, Cut.after?_eq_some_iff,
      SaslName.ofChars?_eq_some_iff]
    constructor
    · intro given
      obtain ⟨written, cut, name, ⟨usable, rfl⟩, same⟩ := given
      cases same
      refine ⟨by simpa using usable, ?_⟩
      rw [cut, authzidText, String.toList_append, SaslName.encode_toList]
    · intro given
      obtain ⟨usable, text⟩ := given
      cases authzid with
      | none => simp [authzidText] at text
      | some name =>
        refine ⟨_, ?_, name, ⟨usable name rfl, rfl⟩, rfl⟩
        rw [text, authzidText, String.toList_append, SaslName.encode_toList]

/-! ## Headers -/

/-- Two flags are not written alike. -/
theorem flag_of_text {flag flag' : BindingFlag} (ok : FlagWellFormed flag)
    (ok' : FlagWellFormed flag') (same : flag.text = flag'.text) : flag = flag' := by
  have read := parseFlag_eq_ok_iff.mpr ⟨ok, rfl⟩
  rw [same, parseFlag_eq_ok_iff.mpr ⟨ok', rfl⟩] at read
  exact (Except.ok.inj read).symm

/-- Two identities are not written alike, usable or not. -/
theorem authzid_of_text {authzid authzid' : Option String}
    (same : authzidText authzid = authzidText authzid') : authzid = authzid' := by
  rw [← String.toList_inj] at same
  cases authzid with
  | none =>
    cases authzid' with
    | none => rfl
    | some => simp [authzidText] at same
  | some name =>
    cases authzid' with
    | none => simp [authzidText] at same
    | some name' =>
      simp only [authzidText, String.toList_append, List.append_cancel_left_eq, String.toList_inj]
        at same
      rw [SaslName.encode_injective same]

/-- **No header begins another**: a header and any octets behind it are told apart, and the header
says which flag and which identity it was written for. The identities may be any texts. -/
theorem headerText_append_inj {flag flag' : BindingFlag} {authzid authzid' : Option String}
    {rest rest' : Bytes} (ok : FlagWellFormed flag) (ok' : FlagWellFormed flag')
    (same : utf8 (headerText flag authzid) ++ rest = utf8 (headerText flag' authzid') ++ rest') :
    flag = flag' ∧ authzid = authzid' ∧ rest = rest' := by
  have parts (flag : BindingFlag) (authzid : Option String) (rest : Bytes) :
      utf8 (headerText flag authzid) ++ rest =
        utf8 flag.text ++ comma :: (utf8 (authzidText authzid) ++ comma :: rest) := by
    have mark : utf8 "," = [comma] := rfl
    simp only [headerText_eq, utf8_append, mark, List.append_assoc, List.cons_append,
      List.nil_append]
  rw [parts, parts] at same
  obtain ⟨flags, behind⟩ := Cut.append_sep_inj (comma_not_mem_utf8 (comma_not_mem_flag ok))
    (comma_not_mem_utf8 (comma_not_mem_flag ok')) same
  obtain ⟨authzids, rests⟩ := Cut.append_sep_inj (comma_not_mem_utf8 (comma_not_mem_authzid authzid))
    (comma_not_mem_utf8 (comma_not_mem_authzid authzid')) behind
  exact ⟨flag_of_text ok ok' (utf8_injective flags), authzid_of_text (utf8_injective authzids), rests⟩

/-! ## The bare part -/

/-- Where no extension is read, the bare part must not look as if it began with one. -/
theorem parseMandatoryExtension_eq_ok_iff {bare l : List Char} {extension : Option String} :
    parseMandatoryExtension bare = .ok (extension, l) ↔
      (∀ value ∈ extension, value ≠ "" ∧ ',' ∉ value.toList ∧ '\x00' ∉ value.toList) ∧
      bare = (mandatoryText extension).toList ++ l ∧
      (extension = none → Cut.after? "m=".toList l = none) := by
  unfold parseMandatoryExtension
  cases mark : Cut.after? "m=".toList bare with
  | none =>
    cases extension with
    | none =>
      have empty : (mandatoryText none).toList = [] := rfl
      simp only [Except.ok.injEq, Prod.mk.injEq, true_and, empty, List.nil_append]
      constructor
      · rintro rfl
        exact ⟨by simp, rfl, fun _ => mark⟩
      · intro given
        obtain ⟨-, rfl, -⟩ := given
        rfl
    | some value =>
      have differ := Cut.after?_eq_none_iff.mp mark (value.toList ++ ',' :: l)
      simpa [mandatoryText] using fun _ _ _ => differ
  | some rest =>
    rw [Cut.after?_eq_some_iff] at mark
    simp only [bind_eq_ok_iff, expect_eq_ok_iff, ensure_eq_ok_iff, Cut.atFirst?_eq_some_iff,
      Prod.exists]
    constructor
    · intro given
      obtain ⟨value, l', ⟨absent, rfl⟩, -, ⟨nonempty, zero⟩, same⟩ := given
      cases same
      refine ⟨?_, ?_, by simp⟩
      · simpa [String.ofList_eq_empty_iff] using ⟨nonempty, absent, zero⟩
      · simp [mark, mandatoryText]
    · intro given
      obtain ⟨wellFormed, text, unmarked⟩ := given
      cases extension with
      | none =>
        have empty : (mandatoryText none).toList = [] := rfl
        rw [empty, List.nil_append] at text
        subst text
        rw [mark, Cut.after?_append] at unmarked
        exact absurd (unmarked rfl) (by simp)
      | some value =>
        obtain ⟨nonempty, absent, zero⟩ := wellFormed value rfl
        refine ⟨value.toList, l, ⟨absent, ?_⟩, (), ⟨?_, zero⟩, by simp [pure, Except.pure]⟩
        · rw [text] at mark
          simpa [mandatoryText] using mark.symm
        · rwa [ne_eq, String.toList_eq_nil_iff]

/-- The fourth cut: the written form of a usable name. -/
theorem parseUsername_eq_ok_iff {l : List Char} {username : String} :
    parseUsername l = .ok username ↔
      SaslName.Usable username ∧ l = "n=".toList ++ username.toList.flatMap SaslName.escape := by
  simp only [parseUsername, bind_eq_ok_iff, expect_eq_ok_iff, Cut.after?_eq_some_iff,
    SaslName.ofChars?_eq_some_iff]
  constructor
  · intro given
    obtain ⟨written, rfl, usable, rfl⟩ := given
    exact ⟨usable, rfl⟩
  · intro given
    obtain ⟨usable, rfl⟩ := given
    exact ⟨_, rfl, usable, rfl⟩

/-- The fifth cut: a nonce up to the next comma, and all that is behind it for extensions. -/
theorem parseNonce_eq_ok_iff {l : List Char} {nonce : String} {extensions : Option String} :
    parseNonce l = .ok (nonce, extensions) ↔
      isNonce (utf8 nonce) ∧
      l = "r=".toList ++ (nonce.toList ++ (extensionsText extensions).toList) := by
  simp only [parseNonce, bind_eq_ok_iff, expect_eq_ok_iff, ensure_eq_ok_iff,
    Cut.after?_eq_some_iff]
  constructor
  · intro given
    obtain ⟨rest, rfl, -, nonceOk, same⟩ := given
    cases same
    refine ⟨nonceOk, ?_⟩
    rw [String.toList_ofList]
    cases cut : Cut.atFirst? ',' rest with
    | none =>
      have whole : Cut.before ',' rest = rest :=
        Cut.before_eq_iff.mpr ⟨Cut.atFirst?_eq_none_iff.mp cut, .inl rfl⟩
      simp [extensionsText, whole]
    | some parts =>
      obtain ⟨absent, split⟩ := Cut.atFirst?_eq_some_iff.mp cut
      have first : Cut.before ',' rest = parts.1 :=
        Cut.before_eq_iff.mpr ⟨absent, .inr ⟨_, split⟩⟩
      rw [first]
      simpa [extensionsText] using split
  · intro given
    obtain ⟨nonceOk, rfl⟩ := given
    have absent := comma_not_mem_toList_of_isNonce nonceOk
    refine ⟨_, rfl, (), ?_⟩
    cases extensions with
    | none =>
      have whole : nonce.toList ++ (extensionsText none).toList = nonce.toList :=
        List.append_nil _
      have all : Cut.before ',' nonce.toList = nonce.toList :=
        Cut.before_eq_iff.mpr ⟨absent, .inl rfl⟩
      rw [whole, all, String.ofList_toList, Cut.atFirst?_eq_none_iff.mpr absent]
      exact ⟨nonceOk, rfl⟩
    | some text =>
      have split : nonce.toList ++ (extensionsText (some text)).toList =
          nonce.toList ++ ',' :: text.toList := by simp [extensionsText]
      have first : Cut.before ',' (nonce.toList ++ ',' :: text.toList) = nonce.toList :=
        Cut.before_append absent (.inr ⟨_, rfl⟩)
      rw [split, first, String.ofList_toList, Cut.atFirst?_append absent]
      exact ⟨nonceOk, by simp [pure, Except.pure]⟩

/-! ## The whole message -/

/-- The bare part by its comma: the username in front, the nonce behind. -/
theorem bareText_toList (username nonce : String) :
    (bareText username nonce).toList =
      ("n=".toList ++ username.toList.flatMap SaslName.escape) ++ ',' :: ("r=".toList ++ nonce.toList) := by
  simp only [bareText, String.toList_append, SaslName.encode_toList]
  simp

/-- The username is over at the first comma of the bare part. -/
theorem comma_not_mem_username (username : String) :
    ',' ∉ "n=".toList ++ username.toList.flatMap SaslName.escape :=
  List.not_mem_append (by decide) (SaslName.comma_not_mem_escaped _)

/-- The header as the reader keeps it: the flag, the comma, the identity, the last comma. -/
theorem ofList_header (flag : BindingFlag) (authzid : Option String) :
    String.ofList (flag.text.toList ++ ',' :: (authzidText authzid).toList ++ [',']) =
      headerText flag authzid := by
  rw [← String.toList_inj, headerText_toList, String.toList_ofList]
  simp

/-- The bare part as the reader keeps it. -/
theorem ofList_bare (extension : Option String) (username nonce : String)
    (extensions : Option String) :
    String.ofList ((mandatoryText extension).toList ++
        ("n=".toList ++ username.toList.flatMap SaslName.escape ++
          ',' :: ("r=".toList ++ (nonce.toList ++ (extensionsText extensions).toList)))) =
      mandatoryText extension ++ bareText username nonce ++ extensionsText extensions := by
  rw [← String.toList_inj, String.toList_ofList, String.toList_append, String.toList_append,
    bareText_toList]
  simp

/-- **Reading accepts exactly what the grammar writes**, and keeps both parts as they stand. -/
theorem parse_eq_ok_iff {message : String} {m : ClientFirst} :
    parse message = .ok m ↔ m.WellFormed ∧ message = m.header ++ m.bare := by
  constructor
  · intro read
    simp only [parse, bind_eq_ok_iff, expect_eq_ok_iff, Prod.exists, Cut.atFirst?_eq_some_iff,
      parseFlag_eq_ok_iff, parseAuthzid_eq_ok_iff, parseMandatoryExtension_eq_ok_iff,
      parseUsername_eq_ok_iff, parseNonce_eq_ok_iff] at read
    -- the equations of the cuts, each put into the one before it
    obtain ⟨_, _, ⟨-, text⟩, flag, ⟨flagOk, rfl⟩, _, bare, ⟨-, rfl⟩, authzid, ⟨authzidOk, rfl⟩,
      extension, _, ⟨extensionOk, rfl, -⟩, _, _, ⟨-, rfl⟩, username, ⟨usernameOk, rfl⟩,
      nonce, extensions, ⟨nonceOk, rfl⟩, same⟩ := read
    cases same
    refine ⟨⟨flagOk, authzidOk, extensionOk, usernameOk, nonceOk, ofList_header flag authzid,
      ofList_bare extension username nonce extensions⟩, ?_⟩
    rw [← String.toList_inj, text]
    simp
  · intro given
    obtain ⟨h, rfl⟩ := given
    obtain ⟨header, flag, authzid, bare, extension, username, nonce, extensions⟩ := m
    obtain ⟨flagOk, authzidOk, extensionOk, usernameOk, nonceOk, headerEq, bareEq⟩ := h
    simp only at flagOk authzidOk extensionOk usernameOk nonceOk headerEq bareEq
    subst headerEq bareEq
    simp only [parse, bind_eq_ok_iff, expect_eq_ok_iff, Prod.exists, Cut.atFirst?_eq_some_iff,
      parseFlag_eq_ok_iff, parseAuthzid_eq_ok_iff, parseMandatoryExtension_eq_ok_iff,
      parseUsername_eq_ok_iff, parseNonce_eq_ok_iff]
    -- each cut finds what was written there, because no field before it has a comma
    refine ⟨flag.text.toList, _, ⟨comma_not_mem_flag flagOk, ?_⟩, flag, ⟨flagOk, rfl⟩,
      (authzidText authzid).toList, _, ⟨comma_not_mem_authzid authzid, rfl⟩, authzid, ⟨authzidOk, rfl⟩,
      extension, _, ⟨extensionOk, rfl, fun _ => rfl⟩, _, _, ⟨comma_not_mem_username username, rfl⟩,
      username, ⟨usernameOk, rfl⟩, nonce, extensions, ⟨nonceOk, rfl⟩, ?_⟩
    · simp only [String.toList_append, headerText_toList, bareText_toList]
      simp
    · simp only [pure, Except.pure, Except.ok.injEq, ClientFirst.mk.injEq, true_and, and_true]
      exact ⟨ofList_header flag authzid, ofList_bare extension username nonce extensions⟩

theorem ofOctets_utf8 (text : String) : ofOctets (utf8 text) = parse text := by
  rw [ofOctets, ofUtf8?_utf8]
  rfl

/-- A message is read where its octets are those of a text that is. -/
theorem ofOctets_eq_ok_iff_exists_text {message : Bytes} {m : ClientFirst} :
    ofOctets message = .ok m ↔ ∃ text, utf8 text = message ∧ parse text = .ok m := by
  simp only [ofOctets, bind_eq_ok_iff, expect_eq_ok_iff, ofUtf8?_eq_some_iff]

/-- **Reading octets accepts exactly what the grammar writes.** The two parts are verbatim slices of
them. -/
theorem ofOctets_eq_ok_iff {message : Bytes} {m : ClientFirst} :
    ofOctets message = .ok m ↔ m.WellFormed ∧ message = utf8 m.header ++ utf8 m.bare := by
  simp only [ofOctets_eq_ok_iff_exists_text, parse_eq_ok_iff]
  constructor
  · intro given
    obtain ⟨_, rfl, h, rfl⟩ := given
    exact ⟨h, utf8_append _ _⟩
  · intro given
    obtain ⟨h, rfl⟩ := given
    exact ⟨_, utf8_append _ _, h, rfl⟩

/-- The fields of a message are read off it, so no two rows of fields are written alike. -/
theorem WellFormed.eq_of_text {m m' : ClientFirst} (h : m.WellFormed) (h' : m'.WellFormed)
    (same : m.header ++ m.bare = m'.header ++ m'.bare) : m = m' := by
  have read : parse (m.header ++ m.bare) = .ok m := parse_eq_ok_iff.mpr ⟨h, rfl⟩
  rw [same, parse_eq_ok_iff.mpr ⟨h', rfl⟩] at read
  exact (Except.ok.inj read).symm

/-- **A message and its fields determine each other.** Reading gives these fields exactly where each
of them is what may stand in its place and the message is what writing them gives, with the header
and the bare part cut where the header's last comma is. So a message has one reading at most, and
writing what was read gives the message back as it was. -/
theorem parse_exact (message : String) :
    (∀ header flag authzid bare extension username nonce extensions,
      parse message =
          .ok ⟨header, flag, authzid, bare, extension, username, nonce, extensions⟩ ↔
        (∀ name, flag = .required name →
          name ≠ "" ∧ ∀ c ∈ name.toList, c.isAlphanum ∨ c = '.' ∨ c = '-') ∧
        (∀ name ∈ authzid, name ≠ "" ∧ '\x00' ∉ name.toList) ∧
        (∀ value ∈ extension, value ≠ "" ∧ ',' ∉ value.toList ∧ '\x00' ∉ value.toList) ∧
        (username ≠ "" ∧ '\x00' ∉ username.toList) ∧
        (nonce ≠ "" ∧ ∀ c ∈ nonce.toList, '!' ≤ c ∧ c ≤ '~' ∧ c ≠ ',') ∧
        header = headerText flag authzid ∧
        bare = mandatoryText extension ++ bareText username nonce ++ extensionsText extensions ∧
        message = header ++ bare) ∧
    (∀ m m' : ClientFirst, m.WellFormed → m'.WellFormed →
      message = m.header ++ m.bare → message = m'.header ++ m'.bare → m = m') ∧
    (∀ m, parse message = .ok m → headerText m.flag m.authzid ++
      (mandatoryText m.mandatoryExtension ++ bareText m.username m.nonce ++
        extensionsText m.extensions) = message) := by
  refine ⟨?_, ?_, ?_⟩
  · intro header flag authzid bare extension username nonce extensions
    have flagIff : FlagWellFormed flag ↔ ∀ name, flag = .required name →
        name ≠ "" ∧ ∀ c ∈ name.toList, c.isAlphanum ∨ c = '.' ∨ c = '-' := by
      cases flag <;> simp [FlagWellFormed, isBindingNameChar, or_assoc]
    rw [parse_eq_ok_iff, ← flagIff, ← isNonce_utf8_iff]
    constructor
    · intro given
      obtain ⟨h, text⟩ := given
      exact ⟨h.flag, h.authzid, h.mandatoryExtension, h.username, h.nonce, h.header_eq, h.bare_eq,
        text⟩
    · intro given
      obtain ⟨flagOk, authzidOk, extensionOk, usernameOk, nonceOk, headerEq, bareEq, text⟩ := given
      exact ⟨⟨flagOk, authzidOk, extensionOk, usernameOk, nonceOk, headerEq, bareEq⟩, text⟩
  · intro m m' h h' text text'
    exact h.eq_of_text h' (text.symm.trans text')
  · intro m read
    obtain ⟨h, text⟩ := parse_eq_ok_iff.mp read
    rw [text, h.header_eq, h.bare_eq]

/-! ## What is outside the grammar -/

theorem parseFlag_failsOnlyAs_aboutField (l : List Char) :
    FailsOnlyAs Error.IsAboutField (parseFlag l) := by
  fun_cases parseFlag l with
  | case1 => exact failsOnlyAs_error (.missing .bindingFlag)
  | case2 => exact failsOnlyAs_ok _
  | case3 => exact failsOnlyAs_ok _
  | case4 name =>
    exact (failsOnlyAs_ensure (.invalid .bindingFlag)).bind fun _ => failsOnlyAs_ok _
  | case5 => exact failsOnlyAs_error (.invalid .bindingFlag)

theorem parseAuthzid_failsOnlyAs_aboutField (l : List Char) :
    FailsOnlyAs Error.IsAboutField (parseAuthzid l) := by
  cases l with
  | nil => exact failsOnlyAs_ok _
  | cons c l =>
    refine (failsOnlyAs_expect (.missing .authzid)).bind fun written => ?_
    exact (failsOnlyAs_expect (.invalid .authzid)).bind fun _ => failsOnlyAs_ok _

/-- A bare part that begins with an unfinished extension is refused for the username it lacks, and
one whose extension is malformed, for the extension. -/
theorem parseMandatoryExtension_failsOnlyAs_aboutField (bare : List Char) :
    FailsOnlyAs Error.IsAboutField (parseMandatoryExtension bare) := by
  unfold parseMandatoryExtension
  split
  · exact failsOnlyAs_ok _
  · refine (failsOnlyAs_expect (.missing .authcid)).bind fun ⟨value, l⟩ => ?_
    exact (failsOnlyAs_ensure (.invalid .mandatoryExtension)).bind fun _ => failsOnlyAs_ok _

theorem parseUsername_failsOnlyAs_aboutField (l : List Char) :
    FailsOnlyAs Error.IsAboutField (parseUsername l) :=
  (failsOnlyAs_expect (.missing .authcid)).bind fun _ => failsOnlyAs_expect (.invalid .authcid)

theorem parseNonce_failsOnlyAs_aboutField (l : List Char) :
    FailsOnlyAs Error.IsAboutField (parseNonce l) := by
  refine (failsOnlyAs_expect (.missing .nonce)).bind fun l => ?_
  exact (failsOnlyAs_ensure (.invalid .nonce)).bind fun _ => failsOnlyAs_ok _

/-- What is outside the grammar is refused for a field. -/
theorem parse_failsOnlyAs_aboutField (message : String) :
    FailsOnlyAs Error.IsAboutField (parse message) := by
  unfold parse
  refine (failsOnlyAs_expect (.missing .bindingFlag)).bind fun ⟨flagPart, l⟩ => ?_
  refine (parseFlag_failsOnlyAs_aboutField _).bind fun flag => ?_
  refine (failsOnlyAs_expect (.missing .authzid)).bind fun ⟨authzidPart, bare⟩ => ?_
  refine (parseAuthzid_failsOnlyAs_aboutField _).bind fun authzid => ?_
  refine (parseMandatoryExtension_failsOnlyAs_aboutField _).bind fun ⟨extension, l⟩ => ?_
  refine (failsOnlyAs_expect (.missing .nonce)).bind fun ⟨usernamePart, l⟩ => ?_
  refine (parseUsername_failsOnlyAs_aboutField _).bind fun username => ?_
  exact (parseNonce_failsOnlyAs_aboutField _).bind fun _ => failsOnlyAs_ok _

/-- Octets outside the grammar are refused for a field, and those that are no text for their
encoding. -/
theorem ofOctets_failsOnlyAs_aboutField (message : Bytes) :
    FailsOnlyAs Error.IsAboutField (ofOctets message) :=
  (failsOnlyAs_expect (.invalid .encoding)).bind parse_failsOnlyAs_aboutField

/-! ## Names that cannot stand in a message -/

variable {flag : BindingFlag}

/-- The written form of a name that is not usable is read as no name. -/
theorem expect_name_of_unusable {name : String} (unusable : ¬SaslName.Usable name) (error : Error) :
    expect (SaslName.ofChars? (name.toList.flatMap SaslName.escape)) error = .error error := by
  rw [SaslName.ofChars?_escaped, if_neg unusable]
  rfl

/-- The written form of an identity that is not usable is refused. -/
theorem parseAuthzid_of_unusable {name : String} (unusable : ¬SaslName.Usable name) :
    parseAuthzid (authzidText (some name)).toList = .error (.invalid .authzid) := by
  have chars : (authzidText (some name)).toList =
      'a' :: '=' :: name.toList.flatMap SaslName.escape := by
    rw [authzidText, String.toList_append, SaslName.encode_toList]
    rfl
  rw [chars]
  apply (bind_of_ok (expect_eq_ok_iff.mpr (Cut.after?_append "a=".toList _))).trans
  exact bind_of_error (expect_name_of_unusable unusable _)

theorem parseUsername_of_unusable {name : String} (unusable : ¬SaslName.Usable name) :
    parseUsername ("n=".toList ++ name.toList.flatMap SaslName.escape) =
      .error (.invalid .authcid) := by
  apply (bind_of_ok (expect_eq_ok_iff.mpr (Cut.after?_append "n=".toList _))).trans
  exact expect_name_of_unusable unusable _

/-- Reading comes to the identity behind the flag, and to the bare part behind the identity. -/
theorem atFirst?_header (flagOk : FlagWellFormed flag) (authzid : Option String) (bare : String) :
    Cut.atFirst? ',' (headerText flag authzid ++ bare).toList =
        some (flag.text.toList, (authzidText authzid).toList ++ ',' :: bare.toList) ∧
      Cut.atFirst? ',' ((authzidText authzid).toList ++ ',' :: bare.toList) =
        some ((authzidText authzid).toList, bare.toList) := by
  have chars : (headerText flag authzid ++ bare).toList =
      flag.text.toList ++ ',' :: ((authzidText authzid).toList ++ ',' :: bare.toList) := by
    simp [headerText_toList]
  rw [chars]
  exact ⟨Cut.atFirst?_append (comma_not_mem_flag flagOk) _,
    Cut.atFirst?_append (comma_not_mem_authzid authzid) _⟩

/-- An identity that cannot stand in a message is refused whatever comes behind it. -/
theorem parse_of_unusable_authzid (flagOk : FlagWellFormed flag) {name : String}
    (unusable : ¬SaslName.Usable name) (bare : String) :
    parse (headerText flag (some name) ++ bare) = .error (.invalid .authzid) := by
  obtain ⟨flagCut, authzidCut⟩ := atFirst?_header flagOk (some name) bare
  unfold parse
  apply (bind_of_ok (expect_eq_ok_iff.mpr flagCut)).trans
  apply (bind_of_ok (parseFlag_eq_ok_iff.mpr ⟨flagOk, rfl⟩)).trans
  apply (bind_of_ok (expect_eq_ok_iff.mpr authzidCut)).trans
  exact bind_of_error (parseAuthzid_of_unusable unusable)

/-- A username that cannot stand in a message is refused behind any header. -/
theorem parse_of_unusable_username (flagOk : FlagWellFormed flag) {authzid : Option String}
    (authzidOk : ∀ name ∈ authzid, SaslName.Usable name) {name : String}
    (unusable : ¬SaslName.Usable name) (nonce : String) :
    parse (headerText flag authzid ++ bareText name nonce) = .error (.invalid .authcid) := by
  obtain ⟨flagCut, authzidCut⟩ := atFirst?_header flagOk authzid (bareText name nonce)
  have unextended : parseMandatoryExtension (bareText name nonce).toList =
      .ok (none, (bareText name nonce).toList) := by
    rw [parseMandatoryExtension_eq_ok_iff, bareText_toList]
    exact ⟨nofun, rfl, fun _ => rfl⟩
  have nameCut := Cut.atFirst?_append (comma_not_mem_username name) ("r=".toList ++ nonce.toList)
  rw [← bareText_toList] at nameCut
  unfold parse
  apply (bind_of_ok (expect_eq_ok_iff.mpr flagCut)).trans
  apply (bind_of_ok (parseFlag_eq_ok_iff.mpr ⟨flagOk, rfl⟩)).trans
  apply (bind_of_ok (expect_eq_ok_iff.mpr authzidCut)).trans
  apply (bind_of_ok (parseAuthzid_eq_ok_iff.mpr ⟨authzidOk, rfl⟩)).trans
  apply (bind_of_ok unextended).trans
  apply (bind_of_ok (expect_eq_ok_iff.mpr nameCut)).trans
  exact bind_of_error (parseUsername_of_unusable unusable)

/-! ## The bare part by its attributes -/

/-- Extensions are nothing, or begin with a comma. -/
theorem tail_extensions (extensions : Option String) :
    Cut.Tail ',' (extensionsText extensions).toList := by
  cases extensions with
  | none => exact .inl rfl
  | some text => exact .inr ⟨text.toList, by simp [extensionsText]⟩

/-- The attributes of a bare part without mandatory extension: the username, the nonce, the
extensions. -/
theorem attributes_bareText (username : String) {nonce : String} (nonceOk : isNonce (utf8 nonce))
    (extensions : Option String) :
    attributes (utf8 (bareText username nonce ++ extensionsText extensions)) =
      attrVal 'n' (utf8 (SaslName.encode username)) :: attrVal 'r' (utf8 nonce) ::
        (attributes (utf8 (extensionsText extensions))).tail := by
  have nameComma : comma ∉ utf8 (SaslName.encode username) :=
    comma_not_mem_utf8 (SaslName.comma_not_mem_encode username)
  have parts : utf8 (bareText username nonce ++ extensionsText extensions) =
      attrVal 'n' (utf8 (SaslName.encode username)) ++ comma :: (attrVal 'r' (utf8 nonce) ++
        utf8 (extensionsText extensions)) := by
    have n (value : Bytes) : attrVal 'n' value = utf8 "n=" ++ value := rfl
    have r (value : Bytes) : comma :: attrVal 'r' value = utf8 ",r=" ++ value := rfl
    rw [← List.cons_append, n, r]
    simp only [bareText, utf8_append, List.append_assoc]
  rw [parts, attributes_append,
    attributes_of_not_mem (comma_not_mem_attrVal nameComma),
    attributes_append_tail (comma_not_mem_attrVal (comma_not_mem_of_isNonce nonceOk))
      (tail_utf8 (tail_extensions extensions))]
  rfl

/-- The bare part of a message that is read, by its attributes. -/
theorem attributes_bare {m : ClientFirst} (h : m.WellFormed) :
    attributes (utf8 m.bare) =
      (m.mandatoryExtension.map fun value => attrVal 'm' (utf8 value)).toList ++
        attrVal 'n' (utf8 (SaslName.encode m.username)) :: attrVal 'r' (utf8 m.nonce) ::
          (attributes (utf8 (extensionsText m.extensions))).tail := by
  rw [h.bare_eq, String.append_assoc]
  cases extension : m.mandatoryExtension with
  | none =>
    rw [mandatoryText, String.empty_append, attributes_bareText _ h.nonce]
    rfl
  | some value =>
    obtain ⟨-, absent, -⟩ := h.mandatoryExtension value extension
    have valueComma : comma ∉ utf8 value := comma_not_mem_utf8 absent
    have m (octets : Bytes) : attrVal 'm' octets = utf8 "m=" ++ octets := rfl
    have ending : utf8 "," = [comma] := rfl
    have parts (rest : String) : utf8 (mandatoryText (some value) ++ rest) =
        attrVal 'm' (utf8 value) ++ comma :: utf8 rest := by
      simp only [mandatoryText, utf8_append, m, ending, List.append_assoc]
      rfl
    rw [parts, attributes_append,
      attributes_of_not_mem (comma_not_mem_attrVal valueComma),
      attributes_bareText _ h.nonce]
    rfl

end Scram.ClientFirst
