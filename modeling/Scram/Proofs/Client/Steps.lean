import Scram.Client
import Scram.Proofs.Grammar.ClientFinal
import Scram.Proofs.Grammar.ServerFinal
import Scram.Proofs.Grammar.ServerFirst
import Scram.Proofs.KeyChain

/-!
# What a client's steps come to

What a client sends, read by the grammars of its messages, and what it takes from a server. A
client's first message reads as the client's own fields or not at all (`ofOctets_first_cases`); its
final message exists exactly when the server's first one is in the grammar and extends the client's
nonce (`answer_eq_ok_iff`); and it settles for nothing but the signature it awaits
(`settle_eq_ok_iff`).
-/

namespace Scram

namespace Client

variable {c : Client}

/-! ## The first message -/

/-- A client whose names can stand in a message. -/
structure Presentable (c : Client) : Prop where
  authcid : SaslName.Usable c.authcid
  authzid : ∀ authzid ∈ c.authzid, SaslName.Usable authzid

/-- What a client's first message says. -/
def request (c : Client) : ClientFirst where
  header := c.header
  flag := c.kind.flag
  authzid := c.authzid
  bare := c.bare
  mandatoryExtension := none
  username := c.authcid
  nonce := c.nonce.text
  extensions := none

/-- Every flag that a client sends is in the grammar. -/
theorem flagWellFormed (kind : BindingKind) : ClientFirst.FlagWellFormed kind.flag := by
  cases kind with
  | unsupported => exact trivial
  | unused => exact trivial
  | tlsUnique => exact ⟨by decide, List.all_eq_true.mp (by decide)⟩
  | tlsServerEndPoint => exact ⟨by decide, List.all_eq_true.mp (by decide)⟩

/-- What a client says is in the grammar where its names can stand in a message. -/
theorem request_wellFormed (h : c.Presentable) : c.request.WellFormed where
  flag := flagWellFormed c.kind
  authzid := h.authzid
  mandatoryExtension := by simp [request]
  username := h.authcid
  nonce := c.nonce.isNonce_text
  header_eq := rfl
  bare_eq := by simp [request, bare, ClientFirst.mandatoryText, ClientFirst.extensionsText]

/-- **A client's first message reads as the client's own fields.** -/
theorem ofOctets_first (h : c.Presentable) :
    ClientFirst.ofOctets (utf8 c.first.2) = .ok c.request :=
  ClientFirst.ofOctets_eq_ok_iff.mpr ⟨request_wellFormed h, utf8_append _ _⟩

/-- An identity that no message can carry is refused, whatever the username is. -/
theorem ofOctets_first_of_unusable_authzid {name : String} (given : name ∈ c.authzid)
    (unusable : ¬SaslName.Usable name) :
    ClientFirst.ofOctets (utf8 c.first.2) = .error (.invalid .authzid) := by
  rw [ClientFirst.ofOctets_utf8, first, header, Option.mem_def.mp given]
  exact ClientFirst.parse_of_unusable_authzid (flagWellFormed c.kind) unusable c.bare

/-- A username that no message can carry is refused, where the identity is none of these. -/
theorem ofOctets_first_of_unusable_authcid (authzid : ∀ name ∈ c.authzid, SaslName.Usable name)
    (unusable : ¬SaslName.Usable c.authcid) :
    ClientFirst.ofOctets (utf8 c.first.2) = .error (.invalid .authcid) := by
  rw [ClientFirst.ofOctets_utf8]
  exact ClientFirst.parse_of_unusable_username (flagWellFormed c.kind) authzid unusable c.nonce.text

/-- A client's first message says what the client means, or is refused for one of its names. -/
theorem ofOctets_first_name_cases (c : Client) :
    ClientFirst.ofOctets (utf8 c.first.2) = .ok c.request ∨
      ClientFirst.ofOctets (utf8 c.first.2) = .error (.invalid .authzid) ∨
      ClientFirst.ofOctets (utf8 c.first.2) = .error (.invalid .authcid) := by
  by_cases authzid : ∀ name ∈ c.authzid, SaslName.Usable name
  · by_cases authcid : SaslName.Usable c.authcid
    · exact .inl (ofOctets_first ⟨authcid, authzid⟩)
    · exact .inr (.inr (ofOctets_first_of_unusable_authcid authzid authcid))
  · obtain ⟨name, failing⟩ := Classical.not_forall.mp authzid
    obtain ⟨given, unusable⟩ := Classical.not_imp.mp failing
    exact .inr (.inl (ofOctets_first_of_unusable_authzid given unusable))

/-- A client's first message says what the client means, or is refused. -/
theorem ofOctets_first_cases (c : Client) :
    ClientFirst.ofOctets (utf8 c.first.2) = .ok c.request ∨
      ∃ error, ClientFirst.ofOctets (utf8 c.first.2) = .error error := by
  rcases c.ofOctets_first_name_cases with read | refused | refused
  · exact .inl read
  · exact .inr ⟨_, refused⟩
  · exact .inr ⟨_, refused⟩

/-- A header is never empty: it has its commas. -/
theorem header_ne_empty (c : Client) : utf8 c.header ≠ [] := by
  have comma_mem : comma ∈ utf8 c.header := by
    rw [comma_mem_utf8_iff, header, ClientFirst.headerText_toList]
    simp
  exact List.ne_nil_of_mem comma_mem

/-- A client always has a binding value to send, since its header is part of it. -/
theorem binding_ne_nil (c : Client) : c.first.1.binding ≠ [] :=
  List.append_ne_nil_of_left_ne_nil c.header_ne_empty _

/-- A client's first message is no final one, whatever its names are. -/
theorem parse_first_ne_ok (c : Client) (final : ClientFinal) :
    ClientFinal.parse (utf8 c.first.2) ≠ .ok final := by
  rw [first, utf8_append]
  exact ClientFinal.parse_header_append_ne_ok _ _ _ _

/-! ## The final message -/

namespace AwaitingFirst

variable {c : AwaitingFirst}

/-- A nonce extends the client's where something is added behind it. -/
theorem extended_iff {nonce : String} :
    c.extended nonce ↔ ∃ added, added ≠ "" ∧ nonce = c.nonce.text ++ added := by
  unfold extended
  cases cut : Cut.after? c.nonce.text.toList nonce.toList with
  | none =>
    rw [Cut.after?_eq_none_iff] at cut
    refine iff_of_false (by simp) ?_
    intro given
    obtain ⟨added, -, rfl⟩ := given
    exact cut added.toList (String.toList_append ..)
  | some added =>
    rw [Cut.after?_eq_some_iff] at cut
    simp only [decide_eq_true_eq]
    constructor
    · intro nonempty
      refine ⟨String.ofList added, by rwa [ne_eq, String.ofList_eq_empty_iff], ?_⟩
      rw [← String.toList_inj, cut, String.toList_append, String.toList_ofList]
    · intro given
      obtain ⟨text, nonempty, rfl⟩ := given
      rw [String.toList_append, List.append_cancel_left_eq] at cut
      rwa [← cut, ne_eq, String.toList_eq_nil_iff]

/-- What a client proves itself with, given the server's first message and what it reads as. -/
def evidence (c : AwaitingFirst) (serverFirst : String) (first : ServerFirst) : Evidence :=
  c.algorithm.evidence (c.algorithm.saltText c.password first.salt first.iterations)
    (transcript (utf8 c.clientFirstBare) (utf8 serverFirst) (utf8 (c.withoutProof first.nonce)))

/-- A client always has a proof to send. -/
theorem evidence_clientProof_ne_nil (c : AwaitingFirst) (serverFirst : String)
    (first : ServerFirst) : (c.evidence serverFirst first).clientProof ≠ [] :=
  c.algorithm.clientProof_evidence_ne_nil _ _

/-- **A client answers exactly the messages that extend its nonce.** -/
theorem answer_eq_ok_iff {serverFirst : String} {answer : AwaitingFinal × String} :
    c.answer serverFirst = .ok answer ↔ ∃ first, ServerFirst.parse serverFirst = .ok first ∧
      c.extended first.nonce ∧
      answer = (⟨(c.evidence serverFirst first).serverSignature⟩,
        ClientFinal.text (c.withoutProof first.nonce) (c.evidence serverFirst first).clientProof) := by
  simp only [AwaitingFirst.answer, bind_eq_ok_iff, ensure_eq_ok_iff]
  constructor
  · intro given
    obtain ⟨first, parsed, ⟨⟩, extended, same⟩ := given
    cases same
    exact ⟨first, parsed, extended, rfl⟩
  · intro given
    obtain ⟨first, parsed, extended, rfl⟩ := given
    exact ⟨first, parsed, (), extended, rfl⟩

/-- A client refuses what does not read, for the reader's reason, and what does not extend its nonce,
for that. -/
theorem answer_eq_error_iff {serverFirst : String} {error : Error} :
    c.answer serverFirst = .error error ↔ ServerFirst.parse serverFirst = .error error ∨
      ∃ first, ServerFirst.parse serverFirst = .ok first ∧ ¬c.extended first.nonce ∧
        error = .malformed .foreignNonce := by
  constructor
  · intro failed
    cases parsed : ServerFirst.parse serverFirst with
    | error reason =>
      rw [answer, bind_of_error parsed] at failed
      cases failed
      exact .inl rfl
    | ok first =>
      rw [answer, bind_of_ok parsed] at failed
      by_cases extended : c.extended first.nonce
      · rw [bind_of_ok (a := ()) (ensure_eq_ok_iff.mpr extended)] at failed
        contradiction
      · rw [ensure, if_neg extended] at failed
        cases failed
        exact .inr ⟨first, rfl, extended, rfl⟩
  · rintro (unread | ⟨first, parsed, foreign, rfl⟩)
    · exact bind_of_error unread
    · exact (bind_of_ok parsed).trans (bind_of_error (if_neg foreign))

/-- A client speaks of a foreign nonce exactly where the message reads and its nonce is not an
extension of the client's. -/
theorem answer_eq_foreignNonce_iff {serverFirst : String} :
    c.answer serverFirst = .error (.malformed .foreignNonce) ↔
      ∃ first, ServerFirst.parse serverFirst = .ok first ∧ ¬c.extended first.nonce := by
  rw [answer_eq_error_iff]
  constructor
  · rintro (unread | ⟨first, parsed, foreign, -⟩)
    · rcases ServerFirst.parse_error_cases unread with other | other
      · contradiction
      · cases other
    · exact ⟨first, parsed, foreign⟩
  · intro given
    obtain ⟨first, parsed, foreign⟩ := given
    exact .inr ⟨first, parsed, foreign, rfl⟩

/-- A client has an answer exactly to the messages in the grammar whose nonce goes on where its own
ends. -/
theorem exists_answer_iff {serverFirst : String} :
    (∃ answer, c.answer serverFirst = .ok answer) ↔
      ∃ first added, ServerFirst.parse serverFirst = .ok first ∧ added ≠ "" ∧
        first.nonce = c.nonce.text ++ added := by
  simp only [answer_eq_ok_iff, extended_iff]
  constructor
  · intro given
    obtain ⟨_, first, parsed, ⟨added, nonempty, nonce⟩, -⟩ := given
    exact ⟨first, added, parsed, nonempty, nonce⟩
  · intro given
    obtain ⟨first, added, parsed, nonempty, nonce⟩ := given
    exact ⟨_, first, parsed, ⟨added, nonempty, nonce⟩, rfl⟩

/-- A client's final message reads as what the client put in it. -/
theorem parse_final {c : AwaitingFirst} {nonce : String} {proof : Bytes} (bindingOk : c.binding ≠ [])
    (nonceOk : isNonce (utf8 nonce)) (proofOk : proof ≠ []) :
    ClientFinal.parse (utf8 (ClientFinal.text (c.withoutProof nonce) proof)) =
      .ok { withoutProof := utf8 (c.withoutProof nonce)
            binding := Base64.encode c.binding
            nonce := utf8 nonce
            proof := Base64.encode proof } :=
  ClientFinal.parse_text bindingOk nonceOk proofOk

end AwaitingFirst

/-! ## The end of the exchange -/

/-- **A client settles exactly for the signature it awaits.** -/
theorem AwaitingFinal.settle_eq_ok_iff {c : AwaitingFinal} {serverFinal : String} :
    c.settle serverFinal = .ok () ↔
      ServerFinal.parse serverFinal = .ok (.signature c.serverSignature) := by
  unfold settle
  cases ServerFinal.parse serverFinal with
  | error => simp [bind, Except.bind]
  | ok final =>
    cases final with
    | signature octets => simp [bind, Except.bind]
    | refusal value => simp [bind, Except.bind]

/-- A client refuses what does not read, for the reader's reason, and every verdict that is not the
signature it awaits. -/
theorem AwaitingFinal.settle_eq_error_iff {c : AwaitingFinal} {serverFinal : String} {error : Error} :
    c.settle serverFinal = .error error ↔ ServerFinal.parse serverFinal = .error error ∨
      (∃ octets, ServerFinal.parse serverFinal = .ok (.signature octets) ∧
        octets ≠ c.serverSignature ∧ error = .unprovenServer) ∨
      ∃ value, ServerFinal.parse serverFinal = .ok (.refusal value) ∧ error = .rejected value := by
  unfold settle
  cases ServerFinal.parse serverFinal with
  | error => simp [bind, Except.bind]
  | ok final =>
    cases final with
    | signature octets =>
      by_cases same : octets = c.serverSignature
      · simp [bind, Except.bind, ensure, same]
      · simp [bind, Except.bind, ensure, same, eq_comm]
    | refusal value => simp [bind, Except.bind, eq_comm]

/-- A signature settles the exchange or shows that the server is not proven. -/
theorem AwaitingFinal.settle_signatureText_eq (c : AwaitingFinal) (signature : Bytes) :
    c.settle (ServerFinal.signatureText signature) =
      ensure (signature = c.serverSignature) .unprovenServer := by
  rw [settle, ServerFinal.parse_signatureText]
  rfl

/-- What a server refuses with arrives as the text of the refusal. -/
theorem AwaitingFinal.settle_refusalText (c : AwaitingFinal) (error : Error) :
    c.settle (ServerFinal.refusalText error) = .error (.rejected error.refusal.text) := by
  rw [settle, ServerFinal.parse_refusalText]
  rfl

end Client

end Scram
