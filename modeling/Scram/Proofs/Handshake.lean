import Scram.Handshake
import Scram.Proofs.Client.Steps
import Scram.Proofs.Server.KeyChain

/-!
# Handshakes that succeed

A client and a server that fit together finish their handshake, whatever names, password, salt,
nonces and binding they have: `handshake_succeeds`. Every message that one end writes is read by the
other as what it was written from, and the keys that the client derives from its password are those
that the server derives from its credentials, over one transcript.
-/

namespace Scram

/-- A client and a server that fit together: the user's names can stand in a message, the server
holds the user's password under enough iterations, it permits the kind of binding and has the data
of it that the client has, and it lets the user act as asked, under the name `identity`. -/
structure Handshake.Fits (c : Client) (s : Server) (salt : Bytes) (count : IterationCount)
    (identity : String) : Prop where
  presentable : c.Presentable
  fresh : s.state = .awaitingFirst
  algorithm : c.algorithm = s.mechanism.algorithm
  nonce : isNonce (utf8 s.nonce)
  credentials : s.credentials c.authcid =
    some (.ofPassword s.mechanism.algorithm c.password salt count)
  iterations : s.policy.minIterations.toNat ≤ count.toNat
  permitted : s.mechanism.permit c.kind s.policy.advertisesBinding = .ok ()
  binding : c.kind.isBound → s.binding c.kind = some c.bindingData
  authorized : s.authorize c.authcid (c.authzid.getD c.authcid) = some identity

namespace Handshake.Fits

variable {c : Client} {s : Server} {salt : Bytes} {count : IterationCount} {identity : String}

/-- The exchange that the client's first message begins. -/
def exchange (c : Client) (s : Server) (salt : Bytes) (count : IterationCount) : Exchange :=
  s.exchange c.request c.kind (if c.kind.isBound then some c.bindingData else none)
    (.ofPassword s.mechanism.algorithm c.password salt count)

/-- What the server's first message says. -/
def offer (c : Client) (s : Server) (salt : Bytes) (count : IterationCount) : ServerFirst :=
  ⟨c.nonce.text ++ s.nonce, salt, count⟩

/-- What the client proves itself with. -/
def evidence (c : Client) (s : Server) (salt : Bytes) (count : IterationCount) : Evidence :=
  c.first.1.evidence (exchange c s salt count).serverFirst (offer c s salt count)

/-- The client's final message. -/
def final (c : Client) (s : Server) (salt : Bytes) (count : IterationCount) : String :=
  ClientFinal.text (c.first.1.withoutProof (offer c s salt count).nonce)
    (evidence c s salt count).clientProof

/-- The server takes the client's first message and begins the exchange that both mean. -/
theorem takeFirst (h : Fits c s salt count identity) :
    (s.takeFirst (utf8 c.first.2)).result = .ok (exchange c s salt count) := by
  refine Server.takeFirst_result_eq_ok_iff.mpr ⟨c.request, c.kind, _, _,
    Client.ofOctets_first h.presentable, BindingKind.ofFlag_flag c.kind, h.permitted, ?_, ?_, rfl⟩
  · rw [BindingSource.resolve_result_eq_ok_iff]
    by_cases bound : c.kind.isBound
    · rw [if_pos bound, if_pos bound]
      exact ⟨c.bindingData, h.binding bound, rfl⟩
    · rw [if_neg bound, if_neg bound]
  · exact Server.lookUp_result_eq_ok_iff.mpr
      ⟨h.credentials, Algorithm.saltText_ne_nil _ _ _ _, h.iterations⟩

/-- The two nonces together are a nonce, so that the offer can be read. -/
theorem isNonce_offer (h : Fits c s salt count identity) :
    isNonce (utf8 (offer c s salt count).nonce) := by
  rw [offer, utf8_append]
  exact isNonce_append c.nonce.isNonce_text h.nonce

/-- The client reads what the server offered, and finds its own nonce extended. -/
theorem answer (h : Fits c s salt count identity) :
    c.first.1.answer (exchange c s salt count).serverFirst =
      .ok (⟨(evidence c s salt count).serverSignature⟩, final c s salt count) := by
  refine Client.AwaitingFirst.answer_eq_ok_iff.mpr
    ⟨offer c s salt count, ServerFirst.parse_text h.isNonce_offer, ?_, rfl⟩
  refine Client.AwaitingFirst.extended_iff.mpr ⟨s.nonce, ?_, rfl⟩
  intro empty
  have nonempty := (isNonce_iff.mp h.nonce).1
  rw [empty] at nonempty
  exact nonempty rfl

/-- Both ends arrive at one channel binding value. -/
theorem bindingValue_eq (c : Client) (s : Server) (salt : Bytes) (count : IterationCount) :
    (exchange c s salt count).bindingValue = c.first.1.binding := by
  have parts : (exchange c s salt count).bindingValue =
      bindingValue c.header c.kind (if c.kind.isBound then some c.bindingData else none) := rfl
  rw [parts, Client.first, bindingValue, bindingValue]
  cases c.kind.isBound <;> rfl

/-- Both ends derive one proof and one signature over one transcript. -/
theorem evidence_eq (h : Fits c s salt count identity) :
    let e := exchange c s salt count
    let a := s.mechanism.algorithm
    let signed := e.transcript (utf8 (c.first.1.withoutProof (offer c s salt count).nonce))
    evidence c s salt count =
      ⟨a.clientProof e.clientKey e.storedKey signed,
        a.hmacParts (a.serverKey e.saltedPassword) signed⟩ := by
  have same : c.first.1.algorithm = s.mechanism.algorithm := h.algorithm
  rw [evidence, Client.AwaitingFirst.evidence, same]
  exact Server.evidence_exchange s c.request c.kind _ (.ofPassword _ c.password salt count) _

/-- The server takes the client's final message: binding, nonce and proof are those it expects. -/
theorem takeFinal (h : Fits c s salt count identity) :
    (s.takeFinal (exchange c s salt count) (utf8 (final c s salt count))).result =
      .ok (identity, ServerFinal.signatureText (evidence c s salt count).serverSignature) := by
  have read := Client.AwaitingFirst.parse_final c.binding_ne_nil h.isNonce_offer
    (c.first.1.evidence_clientProof_ne_nil (exchange c s salt count).serverFirst
      (offer c s salt count))
  have proof := congrArg Evidence.clientProof h.evidence_eq
  have signature := congrArg Evidence.serverSignature h.evidence_eq
  dsimp only at proof signature
  refine Server.takeFinal_result_eq_ok_iff.mpr ⟨_, read, ?_, h.authorized, ?_⟩
  · refine Server.checkFinal_eq_ok_iff.mpr ⟨?_, rfl, ?_⟩
    · rw [Base64.decode?_encode, bindingValue_eq]
    · rw [Base64.decode?_encode, ← proof]
      rfl
  · rw [signature]

/-- The server accepts the client's two messages. -/
theorem receive_result (h : Fits c s salt count identity) :
    (s.receive (utf8 c.first.2)).result = .ok (exchange c s salt count).serverFirst ∧
      ((s.receive (utf8 c.first.2)).server.receive (utf8 (final c s salt count))).result =
        .ok (ServerFinal.signatureText (evidence c s salt count).serverSignature) := by
  obtain ⟨begun, offered⟩ := Server.receive_first_of_ok h.fresh h.takeFirst
  refine ⟨offered, ?_⟩
  rw [begun]
  have waiting : { s with state := .awaitingFinal (exchange c s salt count) }.state =
    .awaitingFinal (exchange c s salt count) := rfl
  exact (Server.receive_final_of_ok waiting h.takeFinal).2

end Handshake.Fits

end Scram
