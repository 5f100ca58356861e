import Scram.Message.ClientFinal
import Scram.Proofs.Grammar.Base64
import Scram.Proofs.Grammar.ClientFirst

/-!
# The grammar of the client's final message

The final message is read from both ends: the binding and the nonce from the front, the proof
from behind. `parse_eq_ok_iff` says that the two readings meet: what is accepted is the four parts
of the message in their order, and what is signed is everything before the proof. They meet in one
place only (`octets_inj`), however often the mark of a proof stands in the message (`mark_cases`);
`parse_octets_exact` is the whole of it. What is outside the grammar is refused for nothing else
(`parse_failsOnlyAs_aboutField`).

The first octet tells a final message from a first one (`header_append_ne`), so that no message is
both (`ofOctets_ne_ok_of_parse`).
-/

namespace Scram.ClientFinal

/-- Four parts that make up a final message: the binding and the proof are not empty and have no
comma, and what follows the nonce is nothing, or a comma and any octets. -/
structure WellFormed (binding nonce extensions proof : Bytes) : Prop where
  binding_ne_nil : binding ≠ []
  comma_not_mem_binding : comma ∉ binding
  nonce : isNonce nonce
  extensions : Cut.Tail comma extensions
  proof_ne_nil : proof ≠ []
  comma_not_mem_proof : comma ∉ proof

/-- What stands before the proof. -/
def signedOctets (binding nonce extensions : Bytes) : Bytes :=
  utf8 "c=" ++ binding ++ utf8 ",r=" ++ nonce ++ extensions

/-- The whole message. -/
def octets (binding nonce extensions proof : Bytes) : Bytes :=
  signedOctets binding nonce extensions ++ utf8 ",p=" ++ proof

/-- The messages that have four such parts. -/
def InGrammar (message : Bytes) : Prop :=
  ∃ binding nonce extensions proof, WellFormed binding nonce extensions proof ∧
    message = octets binding nonce extensions proof

/-- What is signed, from the front, as reading takes it apart. -/
theorem signedOctets_eq (binding nonce extensions : Bytes) :
    signedOctets binding nonce extensions =
      utf8 "c=" ++ (binding ++ comma :: (utf8 "r=" ++ (nonce ++ extensions))) := by
  have mark : utf8 ",r=" = comma :: utf8 "r=" := rfl
  simp only [signedOctets, mark, List.append_assoc, List.cons_append]

/-- Extensions are signed behind everything else. -/
theorem signedOctets_append (binding nonce extensions : Bytes) :
    signedOctets binding nonce [] ++ extensions = signedOctets binding nonce extensions := by
  simp only [signedOctets, List.append_nil]

/-- A cut at the last comma falls behind the nonce, or right at its end. -/
theorem exists_tail_of_last_comma {front back whole last : Bytes} (absent : comma ∉ last)
    (same : front ++ comma :: back = whole ++ comma :: last) :
    ∃ extensions, Cut.Tail comma extensions ∧ whole = front ++ extensions := by
  -- the last comma is the one behind `front` or a later one: were it earlier, the one behind
  -- `front` would be part of `last`
  rcases List.append_eq_append_iff.mp same with ⟨between, rfl, rest⟩ | ⟨between, rfl, rest⟩
  · refine ⟨between, ?_, rfl⟩
    cases between with
    | nil => exact .inl rfl
    | cons o between =>
      obtain ⟨rfl, -⟩ := List.cons.inj rest
      exact .inr ⟨between, rfl⟩
  · cases between with
    | nil => exact ⟨[], .inl rfl, by simp⟩
    | cons o between =>
      obtain ⟨rfl, inside⟩ := List.cons.inj rest
      exact absurd (inside ▸ List.mem_append_right _ List.mem_cons_self) absent

/-- **Reading accepts exactly the four parts in their order**, and splits them off the verbatim
octets before the proof. -/
theorem parse_eq_ok_iff {message : Bytes} {m : ClientFinal} :
    parse message = .ok m ↔ ∃ extensions, WellFormed m.binding m.nonce extensions m.proof ∧
      m.withoutProof = signedOctets m.binding m.nonce extensions ∧
      message = octets m.binding m.nonce extensions m.proof := by
  have mark : utf8 ",p=" = comma :: utf8 "p=" := rfl
  constructor
  · intro read
    simp only [parse, bind_eq_ok_iff, expect_eq_ok_iff, ensure_eq_ok_iff, Prod.exists,
      Cut.after?_eq_some_iff, Cut.atFirst?_eq_some_iff] at read
    obtain ⟨_, front, binding, _, ⟨bindingComma, rfl⟩, -, bindingOk, _, rfl, nonce, rest,
      ⟨nonceComma, rfl⟩, -, nonceOk, withoutProof, proof, last, -, ⟨proofOk, proofComma⟩,
      same⟩ := read
    cases same
    have split := Cut.atLast?_eq_some last
    have absent : comma ∉ utf8 "p=" ++ proof :=
      List.not_mem_append (by decide) proofComma
    have meet : signedOctets binding nonce [] ++ comma :: rest =
        withoutProof ++ comma :: (utf8 "p=" ++ proof) := by
      rw [mark, front] at split
      simpa [signedOctets_eq] using split
    -- the reading from the front and the one from behind meet in the extensions
    obtain ⟨extensions, tail, rfl⟩ := exists_tail_of_last_comma absent meet
    have signed := signedOctets_append binding nonce extensions
    refine ⟨extensions, ⟨bindingOk, bindingComma, nonceOk, tail, proofOk, proofComma⟩, signed, ?_⟩
    rw [octets, ← signed]
    exact split
  · obtain ⟨withoutProof, binding, nonce, proof⟩ := m
    intro given
    obtain ⟨extensions, h, signed, rfl⟩ := given
    simp only at h signed ⊢
    subst signed
    have nonceComma := comma_not_mem_of_isNonce h.nonce
    -- the nonce ends at a comma: the extensions' own or, without any, the proof's
    obtain ⟨rest, ending⟩ : ∃ rest, extensions ++ utf8 ",p=" ++ proof = comma :: rest := by
      rcases h.extensions with rfl | ⟨more, rfl⟩
      · exact ⟨_, rfl⟩
      · exact ⟨_, rfl⟩
    have front : octets binding nonce extensions proof =
        utf8 "c=" ++ (binding ++ comma :: (utf8 "r=" ++ (nonce ++ comma :: rest))) := by
      rw [← ending, octets, signedOctets_eq]
      simp
    have last : Cut.atLast? (utf8 ",p=") (octets binding nonce extensions proof) =
        some (signedOctets binding nonce extensions, proof) := by
      rw [octets, mark]
      exact Cut.atLast?_append _ (by decide) h.comma_not_mem_proof
    simp only [parse, bind_eq_ok_iff, expect_eq_ok_iff, ensure_eq_ok_iff, Prod.exists]
    refine ⟨_, by rw [front, Cut.after?_append], _, _,
      Cut.atFirst?_append h.comma_not_mem_binding _, (), h.binding_ne_nil, _, Cut.after?_append _ _,
      _, _, Cut.atFirst?_append nonceComma rest, (), h.nonce, _, _, last, (),
      ⟨h.proof_ne_nil, h.comma_not_mem_proof⟩, rfl⟩

/-- Four parts that fit the grammar read back as they are. -/
theorem parse_octets {binding nonce extensions proof : Bytes}
    (h : WellFormed binding nonce extensions proof) :
    parse (octets binding nonce extensions proof) =
      .ok ⟨signedOctets binding nonce extensions, binding, nonce, proof⟩ :=
  parse_eq_ok_iff.mpr ⟨extensions, h, rfl, rfl⟩

/-- A message is read exactly if it has four such parts. -/
theorem exists_parse_iff {message : Bytes} : (∃ m, parse message = .ok m) ↔ InGrammar message := by
  constructor
  · intro given
    obtain ⟨m, read⟩ := given
    obtain ⟨extensions, h, -, text⟩ := parse_eq_ok_iff.mp read
    exact ⟨_, _, extensions, _, h, text⟩
  · intro given
    obtain ⟨binding, nonce, extensions, proof, h, rfl⟩ := given
    exact ⟨_, parse_octets h⟩

instance (message : Bytes) : Decidable (InGrammar message) :=
  match read : parse message with
  | .ok m => .isTrue (exists_parse_iff.mp ⟨m, read⟩)
  | .error _ => .isFalse fun inside => by
    obtain ⟨m, found⟩ := exists_parse_iff.mpr inside
    rw [read] at found
    contradiction

/-- What is outside the grammar is refused for nothing else. -/
theorem parse_failsOnlyAs_aboutField (message : Bytes) :
    FailsOnlyAs Error.IsAboutField (parse message) := by
  unfold parse
  refine (failsOnlyAs_expect (.missing .binding)).bind fun l => ?_
  refine (failsOnlyAs_expect (.missing .nonce)).bind fun ⟨binding, l⟩ => ?_
  refine (failsOnlyAs_ensure (.invalid .binding)).bind fun _ => ?_
  refine (failsOnlyAs_expect (.missing .nonce)).bind fun l => ?_
  refine (failsOnlyAs_expect (.missing .proof)).bind fun ⟨nonce, _⟩ => ?_
  refine (failsOnlyAs_ensure (.invalid .nonce)).bind fun _ => ?_
  refine (failsOnlyAs_expect (.missing .proof)).bind fun ⟨withoutProof, proof⟩ => ?_
  refine (failsOnlyAs_ensure (.invalid .proof)).bind fun _ => ?_
  exact failsOnlyAs_ok _

/-- No header begins as a final message does. -/
theorem header_append_ne (flag : BindingFlag) (authzid : Option String) (rest rest' : Bytes) :
    utf8 (ClientFirst.headerText flag authzid) ++ rest ≠ utf8 "c=" ++ rest' := by
  intro same
  rw [ClientFirst.headerText_eq, utf8_append] at same
  have heads := congrArg List.head? same
  have mark : utf8 "c=" = [0x63, 0x3d] := rfl
  cases flag with
  | unsupported =>
    have text : utf8 BindingFlag.unsupported.text = [0x6e] := rfl
    simp [mark, text] at heads
  | unused =>
    have text : utf8 BindingFlag.unused.text = [0x79] := rfl
    simp [mark, text] at heads
  | required name =>
    have text : utf8 (BindingFlag.required name).text = [0x70, 0x3d] ++ utf8 name :=
      utf8_append _ _
    simp [mark, text] at heads

/-- What begins with a header is no final message. -/
theorem parse_header_append_ne_ok (flag : BindingFlag) (authzid : Option String) (rest : Bytes)
    (m : ClientFinal) : parse (utf8 (ClientFirst.headerText flag authzid) ++ rest) ≠ .ok m := by
  intro read
  obtain ⟨extensions, -, -, same⟩ := parse_eq_ok_iff.mp read
  rw [octets, signedOctets_eq, List.append_assoc] at same
  exact header_append_ne _ _ _ _ same

/-- What begins as a final message does is no first message. -/
theorem ofOctets_mark_append_ne_ok (rest : Bytes) (m : ClientFirst) :
    ClientFirst.ofOctets (utf8 "c=" ++ rest) ≠ .ok m := by
  intro read
  obtain ⟨h, same⟩ := ClientFirst.ofOctets_eq_ok_iff.mp read
  rw [h.header_eq] at same
  exact header_append_ne _ _ _ _ same.symm

/-- **No message is both a first and a final one.** -/
theorem ofOctets_ne_ok_of_parse {message : Bytes} {m : ClientFinal} (read : parse message = .ok m)
    (first : ClientFirst) : ClientFirst.ofOctets message ≠ .ok first := by
  obtain ⟨extensions, -, -, rfl⟩ := parse_eq_ok_iff.mp read
  rw [octets, signedOctets_eq, List.append_assoc]
  exact ofOctets_mark_append_ne_ok _ first

/-- What is signed, by its attributes. -/
theorem attributes_signedOctets {binding nonce extensions : Bytes} (absent : comma ∉ binding)
    (nonceOk : isNonce nonce) (tail : Cut.Tail comma extensions) :
    attributes (signedOctets binding nonce extensions) =
      attrVal 'c' binding :: attrVal 'r' nonce :: (attributes extensions).tail := by
  have parts : signedOctets binding nonce extensions =
      attrVal 'c' binding ++ comma :: (attrVal 'r' nonce ++ extensions) :=
    signedOctets_eq binding nonce extensions
  rw [parts, attributes_append,
    attributes_of_not_mem (comma_not_mem_attrVal absent),
    attributes_append_tail (comma_not_mem_attrVal (comma_not_mem_of_isNonce nonceOk)) tail]
  rfl

/-! ## One reading -/

/-- A message is cut into its four parts in one way. -/
theorem octets_inj {binding nonce extensions proof binding' nonce' extensions' proof' : Bytes}
    (h : WellFormed binding nonce extensions proof)
    (h' : WellFormed binding' nonce' extensions' proof')
    (same : octets binding nonce extensions proof = octets binding' nonce' extensions' proof') :
    binding = binding' ∧ nonce = nonce' ∧ extensions = extensions' ∧ proof = proof' := by
  have read := parse_octets h
  rw [same, parse_octets h'] at read
  obtain ⟨signed, rfl, rfl, rfl⟩ := ClientFinal.mk.inj (Except.ok.inj read)
  exact ⟨rfl, rfl, (List.append_cancel_left signed).symm, rfl⟩

/-- Wherever the mark of a proof stands in a message, the proof begins there, or the mark is part of
what is signed. -/
theorem mark_cases {message before behind : Bytes} {m : ClientFinal} (read : parse message = .ok m)
    (marked : message = before ++ utf8 ",p=" ++ behind) :
    before = m.withoutProof ∧ behind = m.proof ∨
      ∃ between, m.withoutProof = before ++ utf8 ",p=" ++ between := by
  have mark : utf8 ",p=" = comma :: utf8 "p=" := rfl
  obtain ⟨extensions, h, signed, text⟩ := parse_eq_ok_iff.mp read
  have absent : comma ∉ utf8 "p=" ++ m.proof :=
    List.not_mem_append (by decide) h.comma_not_mem_proof
  have same : before ++ comma :: (utf8 "p=" ++ behind) =
      m.withoutProof ++ comma :: (utf8 "p=" ++ m.proof) := by
    rw [marked, octets, ← signed, mark] at text
    simpa using text
  obtain ⟨rest, tail, cut⟩ := exists_tail_of_last_comma absent same
  rw [cut, List.append_assoc] at same
  have rests := List.append_cancel_left same
  rcases tail with rfl | ⟨rest, rfl⟩
  · have proofs := List.append_cancel_left (List.cons.inj rests).2
    exact .inl ⟨by simpa using cut.symm, proofs⟩
  · obtain ⟨between, rfl⟩ := Cut.exists_append_of_append_sep (by decide) (List.cons.inj rests).2
    exact .inr ⟨between, by rw [cut, mark]; simp⟩

/-- **A final message and its parts determine each other.** Reading gives these parts exactly where
each of them is what may stand in its place and the message is what writing them gives, with some
extensions, which may be none, behind the nonce; and the message is cut so in no other way. What is
signed begins with the whole of the binding and of the nonce, and holds every mark of a proof but the
last. -/
theorem parse_octets_exact (message : Bytes) :
    (∀ withoutProof binding nonce proof,
      parse message = .ok ⟨withoutProof, binding, nonce, proof⟩ ↔
        ∃ extensions, (binding ≠ [] ∧ comma ∉ binding) ∧
          (nonce ≠ [] ∧ ∀ o ∈ nonce, 0x21 ≤ o ∧ o ≤ 0x7e ∧ o ≠ comma) ∧
          (extensions = [] ∨ ∃ more, extensions = comma :: more) ∧
          (proof ≠ [] ∧ comma ∉ proof) ∧
          withoutProof = utf8 "c=" ++ binding ++ utf8 ",r=" ++ nonce ++ extensions ∧
          message = withoutProof ++ utf8 ",p=" ++ proof) ∧
    (∀ binding nonce extensions proof binding' nonce' extensions' proof',
      WellFormed binding nonce extensions proof → WellFormed binding' nonce' extensions' proof' →
      message = octets binding nonce extensions proof →
      message = octets binding' nonce' extensions' proof' →
      binding = binding' ∧ nonce = nonce' ∧ extensions = extensions' ∧ proof = proof') ∧
    (∀ m, parse message = .ok m →
      (∃ more, attributes m.withoutProof =
        (utf8 "c=" ++ m.binding) :: (utf8 "r=" ++ m.nonce) :: more) ∧
      ∀ before behind, message = before ++ utf8 ",p=" ++ behind →
        before = m.withoutProof ∧ behind = m.proof ∨
          ∃ between, m.withoutProof = before ++ utf8 ",p=" ++ between) := by
  refine ⟨?_, ?_, ?_⟩
  · intro withoutProof binding nonce proof
    rw [parse_eq_ok_iff]
    dsimp only
    constructor
    · intro given
      obtain ⟨extensions, h, rfl, text⟩ := given
      exact ⟨extensions, ⟨h.binding_ne_nil, h.comma_not_mem_binding⟩, isNonce_iff.mp h.nonce,
        h.extensions, ⟨h.proof_ne_nil, h.comma_not_mem_proof⟩, rfl, text⟩
    · intro given
      obtain ⟨extensions, ⟨bindingOk, bindingComma⟩, nonceOk, tail, ⟨proofOk, proofComma⟩, rfl,
        text⟩ := given
      exact ⟨extensions, ⟨bindingOk, bindingComma, isNonce_iff.mpr nonceOk, tail, proofOk,
        proofComma⟩, rfl, text⟩
  · intro _ _ _ _ _ _ _ _ h h' text text'
    exact octets_inj h h' (text.symm.trans text')
  · intro m read
    obtain ⟨extensions, h, signed, -⟩ := parse_eq_ok_iff.mp read
    refine ⟨⟨(attributes extensions).tail, ?_⟩, fun _ _ => mark_cases read⟩
    rw [signed]
    exact attributes_signedOctets h.comma_not_mem_binding h.nonce h.extensions

/-- Of three marks the last one cuts, and what comes before it need not be text. -/
example :
    parse (utf8 "c=biws,r=ab,p=" ++ [0xff] ++ utf8 ",p=cA==,p=dg==") =
      .ok { withoutProof := utf8 "c=biws,r=ab,p=" ++ [0xff] ++ utf8 ",p=cA=="
            binding := utf8 "biws"
            nonce := utf8 "ab"
            proof := utf8 "dg==" } := by rfl

/-! ## Writing -/

/-- What a client signs is what its grammar has before the proof, without extensions. -/
theorem utf8_withoutProofText (binding : Bytes) (nonce : String) :
    utf8 (withoutProofText binding nonce) = signedOctets (Base64.encode binding) (utf8 nonce) [] := by
  simp [withoutProofText, signedOctets]

/-- What a client sends is a message of its grammar, without extensions. -/
theorem utf8_text (binding : Bytes) (nonce : String) (proof : Bytes) :
    utf8 (text (withoutProofText binding nonce) proof) =
      octets (Base64.encode binding) (utf8 nonce) [] (Base64.encode proof) := by
  simp [text, octets, utf8_withoutProofText]

/-- What a client writes is in the grammar, without extensions. -/
theorem wellFormed_text {binding proof : Bytes} {nonce : String} (bindingOk : binding ≠ [])
    (nonceOk : isNonce (utf8 nonce)) (proofOk : proof ≠ []) :
    WellFormed (Base64.encode binding) (utf8 nonce) [] (Base64.encode proof) where
  binding_ne_nil := Base64.encode_ne_nil bindingOk
  comma_not_mem_binding := Base64.comma_not_mem_encode binding
  nonce := nonceOk
  extensions := .inl rfl
  proof_ne_nil := Base64.encode_ne_nil proofOk
  comma_not_mem_proof := Base64.comma_not_mem_encode proof

/-- What a client writes reads back as what it was written from. -/
theorem parse_text {binding proof : Bytes} {nonce : String} (bindingOk : binding ≠ [])
    (nonceOk : isNonce (utf8 nonce)) (proofOk : proof ≠ []) :
    parse (utf8 (text (withoutProofText binding nonce) proof)) =
      .ok { withoutProof := utf8 (withoutProofText binding nonce)
            binding := Base64.encode binding
            nonce := utf8 nonce
            proof := Base64.encode proof } :=
  parse_eq_ok_iff.mpr ⟨[], wellFormed_text bindingOk nonceOk proofOk, utf8_withoutProofText _ _,
    utf8_text _ _ _⟩

end Scram.ClientFinal
