import Scram.Handshake
import Scram.Proofs.Client.Steps
import Scram.Proofs.Server.Steps

/-!
# How a handshake ends

When every message arrives as it was sent, the two ends agree on how their exchange ended, however
little else they agree on: the client is settled only if the server is finished, and it is told of a
refusal exactly if the server refused (`outcome_agrees`).

Client and server need not fit together. They may have other algorithms, passwords, names and binding
data, and the server's nonce may hold commas, blanks or what reads as further attributes, so that the
client reads another nonce, salt and count than the server wrote. The final message that the client
writes is still in the grammar, since it repeats only what it has read; so it fails a check or none,
and every failure of a check reads alike to the client.
-/

namespace Scram.Handshake

variable {c : Client} {s : Server} {serverFirst final : String} {awaiting : Client.AwaitingFinal}

/-- The last entry of a handshake, by what the client makes of the reply to its final message. -/
def Entry.ofOutcome : Except Error Unit → Entry
  | .ok () => .clientSettled
  | .error error => .clientFailed error

/-- A server that answers a client's first message was awaiting it. -/
theorem awaitingFirst_of_answered
    (answered : (s.receive (utf8 c.first.2)).result = .ok serverFirst) :
    s.state = .awaitingFirst := by
  rcases Server.receive_cases s (utf8 c.first.2) with
    ⟨_, fresh, -⟩ | ⟨_, _, _, -, taken, -⟩ | ⟨_, -, result⟩
  · exact fresh
  -- a server that awaits the final message does not accept this one, which is a first message
  · obtain ⟨m, read, -⟩ := Server.takeFinal_result_eq_ok_iff.mp taken
    exact absurd read (c.parse_first_ne_ok m)
  · rw [result] at answered
    contradiction

/-- A client's final message is in the grammar, whatever the server's first one has made it say. -/
theorem exists_parse_final (continued : c.first.1.answer serverFirst = .ok (awaiting, final)) :
    ∃ m, ClientFinal.parse (utf8 final) = .ok m := by
  obtain ⟨first, parsed, -, same⟩ := Client.AwaitingFirst.answer_eq_ok_iff.mp continued
  obtain ⟨_, _, _, h, -⟩ := ServerFirst.parse_eq_ok_iff.mp parsed
  cases same
  exact ⟨_, Client.AwaitingFirst.parse_final c.binding_ne_nil h.nonce
    (c.first.1.evidence_clientProof_ne_nil serverFirst first)⟩

/-- **The two endings.** A final message in the grammar is refused, and then any client is told
`other-error`; or it finishes the exchange, and then it is the signature that the client looks at. -/
theorem closing_cases {e : Exchange} {message : Bytes} {m : ClientFinal}
    (waiting : s.state = .awaitingFinal e) (read : ClientFinal.parse message = .ok m)
    (awaiting : Client.AwaitingFinal) :
    (∃ error, (s.receive message).result = .error error ∧ error.refusal = .otherError ∧
      awaiting.settle (reply (s.receive message).result) = .error (.rejected "other-error")) ∨
    ∃ signature, (s.receive message).result = .ok (ServerFinal.signatureText signature) ∧
      (s.receive message).server.phase = .finished ∧
      awaiting.settle (reply (s.receive message).result) =
        ensure (signature = awaiting.serverSignature) .unprovenServer := by
  cases closed : (s.receive message).result with
  | error error =>
    have told := Server.refusal_of_receive_final_error waiting read closed
    refine .inl ⟨error, rfl, told, ?_⟩
    rw [reply, awaiting.settle_refusalText, told]
    rfl
  | ok text =>
    obtain ⟨identity, taken⟩ := Server.exists_takeFinal_of_receive waiting closed
    obtain ⟨_, -, -, -, rfl⟩ := Server.takeFinal_result_eq_ok_iff.mp taken
    refine .inr ⟨_, rfl, ?_, awaiting.settle_signatureText_eq _⟩
    rw [(Server.receive_final_of_ok waiting taken).1]
    rfl

/-- **Both ends agree on the outcome.** Where a handshake gets as far as the client's final message,
the client is settled exactly if the server is finished and replied with the signature that the client
awaits; it is told `other-error` exactly if the server refused the message; and in any other case it
finds the server unproven. Neither end finds the other's last message outside the grammar, and it is
not out of sequence for the server. -/
theorem outcome_agrees (answered : (s.receive (utf8 c.first.2)).result = .ok serverFirst)
    (continued : c.first.1.answer serverFirst = .ok (awaiting, final)) :
    let opening := s.receive (utf8 c.first.2)
    let closing := opening.server.receive (utf8 final)
    let outcome := awaiting.settle (reply closing.result)
    handshake c s = [.clientSent c.first.2, .serverAnswered opening, .clientSent final,
      .serverAnswered closing, .ofOutcome outcome] ∧
    (outcome = .ok () ↔ closing.server.phase = .finished ∧
      closing.result = .ok (ServerFinal.signatureText awaiting.serverSignature)) ∧
    (outcome = .error (.rejected "other-error") ↔ ∃ error, closing.result = .error error) ∧
    (outcome = .ok () ∨ outcome = .error (.rejected "other-error") ∨
      outcome = .error .unprovenServer) ∧
    (∀ defect, outcome ≠ .error (.malformed defect) ∧ closing.result ≠ .error (.malformed defect)) ∧
    ∀ phase, closing.result ≠ .error (.outOfSequence phase) := by
  intro opening closing outcome
  obtain ⟨e, -, -, server⟩ :=
    Server.exists_takeFirst_of_receive (awaitingFirst_of_answered answered) answered
  have waiting : opening.server.state = .awaitingFinal e := congrArg Server.state server
  obtain ⟨m, read⟩ := exists_parse_final continued
  refine ⟨?_, ?_⟩
  · unfold handshake
    simp only [answered, continued]
    rfl
  -- the client's last message is in the grammar, which leaves the two endings
  rcases closing_cases waiting read awaiting with
    ⟨error, refused, told, settled⟩ | ⟨signature, signed, finished, settled⟩
  · have closed : closing.result = .error error := refused
    have ended : outcome = .error (.rejected "other-error") := settled
    rw [closed, ended]
    refine ⟨by simp, by simp, .inr (.inl rfl), ?_, ?_⟩
    · intro defect
      refine ⟨by simp, ?_⟩
      rintro ⟨⟩
      contradiction
    · rintro phase ⟨⟩
      contradiction
  · have closed : closing.result = .ok (ServerFinal.signatureText signature) := signed
    have ended : outcome = ensure (signature = awaiting.serverSignature) .unprovenServer := settled
    have done : closing.server.phase = .finished := finished
    rw [closed, ended]
    by_cases same : signature = awaiting.serverSignature
    · simp [ensure, same, done]
    · simp [ensure, same, ServerFinal.signatureText_inj]

/-- Another algorithm, and a server's nonce that reads as a salt and a count of its own. -/
theorem outcome_agrees_of_imitated_attributes :
    let c := Client.start .sha1 "user" "pencil" none ⟨"client", by decide⟩
    let stored : Credentials := ⟨[7], [1, 2], Policy.standard.minIterations⟩
    let s := Server.start ⟨.sha256, false⟩ (fun _ => some stored) "s,s=,i=1"
    let serverFirst := "r=clients,s=,i=1,s=AQI=,i=4096"
    let offer : ServerFirst := ⟨"clients", [], ⟨1, by decide, by decide⟩⟩
    let evidence := c.first.1.evidence serverFirst offer
    let awaiting : Client.AwaitingFinal := ⟨evidence.serverSignature⟩
    let final := ClientFinal.text (c.first.1.withoutProof "clients") evidence.clientProof
    let opening := s.receive (utf8 c.first.2)
    let closing := opening.server.receive (utf8 final)
    let outcome := awaiting.settle (reply closing.result)
    opening.result = .ok serverFirst ∧ c.first.1.answer serverFirst = .ok (awaiting, final) ∧
      handshake c s = [.clientSent c.first.2, .serverAnswered opening, .clientSent final,
        .serverAnswered closing, .ofOutcome outcome] ∧
      (outcome = .ok () ↔ closing.server.phase = .finished ∧
        closing.result = .ok (ServerFinal.signatureText awaiting.serverSignature)) ∧
      (outcome = .error (.rejected "other-error") ↔ ∃ error, closing.result = .error error) ∧
      (outcome = .ok () ∨ outcome = .error (.rejected "other-error") ∨
        outcome = .error .unprovenServer) ∧
      (∀ defect, outcome ≠ .error (.malformed defect) ∧
        closing.result ≠ .error (.malformed defect)) ∧
      ∀ phase, closing.result ≠ .error (.outOfSequence phase) := by
  intro c stored s serverFirst offer evidence awaiting final opening closing outcome
  have begun : (s.takeFirst (utf8 c.first.2)).result =
      .ok (s.exchange c.request .unsupported none stored) :=
    Server.takeFirst_result_eq_ok_iff.mpr ⟨c.request, .unsupported, none, stored,
      Client.ofOctets_first ⟨by decide, by decide⟩, rfl, rfl, rfl,
      Server.lookUp_result_eq_ok_iff.mpr ⟨rfl, by decide, Nat.le_refl _⟩, rfl⟩
  have text : (s.exchange c.request .unsupported none stored).serverFirst = serverFirst := by decide
  have answered : opening.result = .ok serverFirst := by
    rw [← text]
    exact (Server.receive_first_of_ok rfl begun).2
  have read : ServerFirst.parse serverFirst = .ok offer :=
    ServerFirst.parse_eq_ok_iff.mpr ⟨"", "1", ",s=AQI=,i=4096",
      ⟨by decide, by decide, by decide, by decide, by decide, .inr ⟨_, rfl⟩⟩, by decide⟩
  have continued : c.first.1.answer serverFirst = .ok (awaiting, final) :=
    Client.AwaitingFirst.answer_eq_ok_iff.mpr ⟨offer, read, by decide, rfl⟩
  exact ⟨answered, continued, outcome_agrees answered continued⟩

end Scram.Handshake
