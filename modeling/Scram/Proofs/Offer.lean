import Scram.Proofs.Client.Steps
import Scram.Proofs.Server.Steps

/-!
# The server's offer

What a server offers between the client's two messages, its nonce, a salt and a count, and what a
client makes of an offer.

A client takes any text at all for an offer, and `answer_exact` says of each whether it is answered,
for what reason it is refused if it is not, and what the answer says when the other end reads it. Who
made the text does not matter: nothing in it can bring the client to write a message which is read as
anything but its own binding, the nonce it was offered and the proof it meant to give.

A server offers what the client needs (`offer_fits`). The two meet in the grammar of the offer: the
nonce in it extends the client's own because the server read that out of the client's message, and
the client's own message is read as its own fields.

That an answer is accepted is not said here; it takes a client and a server that fit together.
-/

namespace Scram

/-! ## Answering an offer -/

namespace Client

variable {c : Client} {serverFirst : String}

/-- An answer to an offer, as the other end reads it: the binding is the client's own header, with
the data of its end where its kind is bound, the nonce is the whole of the offered one, nothing
stands between the nonce and the proof, and the proof is the client's key masked with a signature of
all that was sent. -/
structure Answers (c : Client) (serverFirst : String) (first : ServerFirst) (final : ClientFinal) :
    Prop where
  binding : Base64.decode? final.binding =
    some (utf8 c.header ++ if c.kind.isBound then c.bindingData else [])
  nonce : final.nonce = utf8 first.nonce
  withoutProof : final.withoutProof = utf8 "c=" ++ final.binding ++ utf8 ",r=" ++ final.nonce
  proof : ∃ octets, Base64.decode? final.proof = some octets ∧
    octets.length = c.algorithm.digestSize ∧
    let saltedPassword := c.algorithm.saltText c.password first.salt first.iterations
    let clientKey := c.algorithm.hmac saltedPassword (utf8 "Client Key")
    octets = xorOctets clientKey (c.algorithm.hmac (c.algorithm.hash clientKey)
      (utf8 c.bare ++ comma :: (utf8 serverFirst ++ comma :: final.withoutProof)))

/-- What a client declares: its own header, and the data of its end where its kind is bound. -/
theorem binding_eq (c : Client) :
    c.first.1.binding = utf8 c.header ++ if c.kind.isBound then c.bindingData else [] := rfl

/-- What a client answers is read as the answer that it is. -/
theorem exists_answers {first : ServerFirst} {next : AwaitingFinal} {final : String}
    (parsed : ServerFirst.parse serverFirst = .ok first)
    (answered : c.first.1.answer serverFirst = .ok (next, final)) :
    ∃ read, ClientFinal.parse (utf8 final) = .ok read ∧ c.Answers serverFirst first read := by
  obtain ⟨first', parsed', -, same⟩ := AwaitingFirst.answer_eq_ok_iff.mp answered
  rw [parsed] at parsed'
  cases parsed'
  cases same
  obtain ⟨_, _, _, wellFormed, -⟩ := ServerFirst.parse_eq_ok_iff.mp parsed
  refine ⟨_, AwaitingFirst.parse_final c.binding_ne_nil wellFormed.nonce
    (c.first.1.evidence_clientProof_ne_nil serverFirst first), ?_, rfl, ?_, ?_⟩
  · rw [Base64.decode?_encode, binding_eq]
  · rw [AwaitingFirst.withoutProof, ClientFinal.utf8_withoutProofText, ClientFinal.signedOctets,
      List.append_nil]
  · refine ⟨_, Base64.decode?_encode _, c.algorithm.length_clientProof_evidence _ _, ?_⟩
    intro saltedPassword clientKey
    have evidence : c.first.1.evidence serverFirst first = c.algorithm.evidence saltedPassword
        (transcript (utf8 c.bare) (utf8 serverFirst) (utf8 (c.first.1.withoutProof first.nonce))) := rfl
    have key : c.algorithm.clientKey saltedPassword = clientKey := rfl
    rw [evidence, Algorithm.clientProof_evidence, key, flatten_transcript]

/-- **A client copes with every offer.** It answers exactly the messages in the grammar whose nonce
extends its own by something. It refuses a message for an extension exactly if the message begins with
the mark of one, for its nonce exactly if it is in the grammar and the nonce is no such extension of
the client's, and otherwise for the field that is wrong. Its answers are read as what they are. -/
theorem answer_exact (c : Client) (serverFirst : String) :
    ((∃ answer, c.first.1.answer serverFirst = .ok answer) ↔
      ∃ first added, ServerFirst.parse serverFirst = .ok first ∧ added ≠ "" ∧
        first.nonce = c.nonce.text ++ added) ∧
    (c.first.1.answer serverFirst = .error .unsupportedExtension ↔
      ∃ rest, serverFirst = "m=" ++ rest) ∧
    (c.first.1.answer serverFirst = .error (.malformed .foreignNonce) ↔
      ∃ first, ServerFirst.parse serverFirst = .ok first ∧
        ¬∃ added, added ≠ "" ∧ first.nonce = c.nonce.text ++ added) ∧
    (∀ error, c.first.1.answer serverFirst = .error error →
      error = .unsupportedExtension ∨ error = .malformed .foreignNonce ∨
        ∃ field, error = .missing field ∨ error = .invalid field) ∧
    (∀ next final, c.first.1.answer serverFirst = .ok (next, final) →
      ∃ first read, ServerFirst.parse serverFirst = .ok first ∧
        ClientFinal.parse (utf8 final) = .ok read ∧ c.Answers serverFirst first read) := by
  refine ⟨AwaitingFirst.exists_answer_iff, ?_, ?_, ?_, ?_⟩
  · rw [AwaitingFirst.answer_eq_error_iff, ServerFirst.parse_eq_unsupportedExtension_iff]
    simp
  · simp only [AwaitingFirst.answer_eq_foreignNonce_iff, AwaitingFirst.extended_iff]
    rfl
  · intro error refused
    rcases AwaitingFirst.answer_eq_error_iff.mp refused with unread | ⟨_, _, _, rfl⟩
    · rcases ServerFirst.parse_error_cases unread with rfl | aboutField
      · exact .inl rfl
      · cases aboutField with
        | missing field => exact .inr (.inr ⟨field, .inl rfl⟩)
        | invalid field => exact .inr (.inr ⟨field, .inr rfl⟩)
    · exact .inr (.inl rfl)
  · intro next final answered
    obtain ⟨first, parsed, -⟩ := AwaitingFirst.answer_eq_ok_iff.mp answered
    obtain ⟨read, reads, answers⟩ := exists_answers parsed answered
    exact ⟨first, read, parsed, reads, answers⟩

end Client

/-! ## Making an offer -/

namespace Server

variable {s : Server} {e : Exchange} {opening : Bytes} {first : ClientFirst}
  {credentials : Credentials}

/-- A server offers its own nonce behind the client's, with the salt and the count that it found. -/
theorem Begins.serverFirst (h : s.Begins opening first credentials e) :
    e.serverFirst = ServerFirst.text
      ⟨first.nonce ++ s.nonce, credentials.salt, credentials.iterations⟩ := by
  rw [h.exchange]
  rfl

/-- What a server offers is read as its offer, also where it adds nothing to the client's nonce. -/
theorem Begins.parse_serverFirst (h : s.Begins opening first credentials e)
    (visible : ∀ c ∈ s.nonce.toList, '!' ≤ c ∧ c ≤ '~' ∧ c ≠ ',') :
    ServerFirst.parse e.serverFirst =
      .ok ⟨first.nonce ++ s.nonce, credentials.salt, credentials.iterations⟩ := by
  rw [h.serverFirst]
  exact ServerFirst.parse_text (isNonce_utf8_append h.wellFormed.nonce visible)

/-- A client's own message is begun with as the client's own fields. -/
theorem Begins.eq_request {c : Client} (h : s.Begins (utf8 c.first.2) first credentials e) :
    first = c.request := by
  rcases c.ofOctets_first_cases with own | ⟨error, unread⟩
  · exact Except.ok.inj (h.parsed.symm.trans own)
  · cases h.parsed.symm.trans unread

/-- **A server's first reply is what the client needs.** Whatever it replies to, the reply reads as
the client's nonce with the server's behind it, and the salt and the count of the credentials that
were found for the user, which are hashed often enough for the policy. A client whose own message it
replies to answers it exactly if the server's nonce is not empty. -/
theorem offer_fits {reply : String} (fresh : s.state = .awaitingFirst)
    (visible : ∀ c ∈ s.nonce.toList, '!' ≤ c ∧ c ≤ '~' ∧ c ≠ ',')
    (replied : (s.receive opening).result = .ok reply) :
    ∃ first credentials, ClientFirst.ofOctets opening = .ok first ∧
      s.credentials first.username = some credentials ∧
      ServerFirst.parse reply =
        .ok ⟨first.nonce ++ s.nonce, credentials.salt, credentials.iterations⟩ ∧
      s.policy.minIterations.toNat ≤ credentials.iterations.toNat ∧
      ∀ c : Client, opening = utf8 c.first.2 →
        ((∃ answer, c.first.1.answer reply = .ok answer) ↔ s.nonce ≠ "") := by
  -- the reply is that of an exchange which the message has begun
  obtain ⟨e, taken, rfl, -⟩ := exists_takeFirst_of_receive fresh replied
  obtain ⟨first, credentials, h⟩ := takeFirst_result_eq_ok_iff_begins.mp taken
  have parsed := h.parse_serverFirst visible
  refine ⟨first, credentials, h.parsed, h.found, parsed, h.iterations, ?_⟩
  rintro c rfl
  obtain rfl := h.eq_request
  have own : c.request.nonce = c.first.1.nonce.text := rfl
  rw [Client.AwaitingFirst.exists_answer_iff, parsed]
  constructor
  · intro given
    obtain ⟨_, added, same, nonempty, nonce⟩ := given
    cases same
    rw [own, String.append_right_inj] at nonce
    rwa [nonce]
  · intro nonempty
    exact ⟨_, s.nonce, rfl, nonempty, rfl⟩

/-- A user with a comma in the name, a salt that is no text, and nonces that look like attributes of
the reply. -/
theorem offer_fits_of_lookalike_nonces :
    let count : IterationCount := ⟨4294967295, by decide, by decide⟩
    let c := Client.start .sha1 "us,er" "pencil" (some "a=b") ⟨"r=c", by decide⟩
    let s := start ⟨.sha1, false⟩
      (fun name => if name = "us,er" then some ⟨[7], [255, 0], count⟩ else none) "s=i="
    let opening := utf8 c.first.2
    let reply := "r=r=cs=i=,s=/wA=,i=4294967295"
    s.state = .awaitingFirst ∧ (∀ x ∈ s.nonce.toList, '!' ≤ x ∧ x ≤ '~' ∧ x ≠ ',') ∧
      (s.receive opening).result = .ok reply ∧
      (∃ first credentials, ClientFirst.ofOctets opening = .ok first ∧
        s.credentials first.username = some credentials ∧
        ServerFirst.parse reply =
          .ok ⟨first.nonce ++ s.nonce, credentials.salt, credentials.iterations⟩ ∧
        s.policy.minIterations.toNat ≤ credentials.iterations.toNat) ∧
      ∃ answer, c.first.1.answer reply = .ok answer := by
  intro count c s opening reply
  have visible : ∀ x ∈ s.nonce.toList, '!' ≤ x ∧ x ≤ '~' ∧ x ≠ ',' :=
    ((isNonce_utf8_iff s.nonce).mp (by decide)).2
  have replied : (s.receive opening).result = .ok reply := by decide +kernel
  obtain ⟨first, credentials, read, found, parsed, enough, answers⟩ := offer_fits rfl visible replied
  exact ⟨rfl, visible, replied, ⟨first, credentials, read, found, parsed, enough⟩,
    (answers c rfl).mpr (by decide)⟩

end Server

end Scram
