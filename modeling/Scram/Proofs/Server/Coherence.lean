import Scram.Proofs.Server.History

/-!
# The record of an exchange under way

What a server knows between a client's two messages is one record, and everything that is decided
about the final message is decided from it: the binding value, the nonce and the keys are not worked
out again. So the record has to be in step with what it was made from. `in_flight_exact` says that
it is in every run: a server awaits the final message of an exchange exactly if the last operation
brought a first message that was answered, and the record is coherent with this message, with the
credentials found for its user, and with the settings as they are now.

That the settings are still those of the first message is no accident. There is one place where a
record is made (`state_step_eq_awaitingFinal_iff`); a new setting of whichever kind drops the record
that it would put out of step, and a message leaves the settings alone.

What the record is good for is said elsewhere: here nothing is said of the final message.
-/

namespace Scram

attribute [ext] Exchange

/-- A record in step with a first message, the credentials found for its user, and a server's
settings. The two parts that are kept of the message are the whole of it, and each is what the
message's fields are written as; the kind of binding is the one that the flag names, the settings
permit it, and its data is the transport's; the names are the decoded ones; the nonce is both ends';
the keys are derived from what was found, each from the one before it. -/
structure Exchange.Coherent (e : Exchange) (s : Server) (opening : Bytes) (first : ClientFirst)
    (stored : Credentials) : Prop where
  parsed : ClientFirst.ofOctets opening = .ok first
  text : utf8 e.header ++ utf8 e.clientFirstBare = opening
  header : e.header = ClientFirst.headerText first.flag first.authzid
  clientFirstBare : e.clientFirstBare = ClientFirst.mandatoryText first.mandatoryExtension ++
    ClientFirst.bareText first.username first.nonce ++ ClientFirst.extensionsText first.extensions
  kind : BindingKind.ofFlag first.flag = .ok e.kind
  permitted : s.mechanism.permit e.kind s.policy.advertisesBinding = .ok ()
  supplied : e.kind.isBound → (s.binding e.kind).isSome
  bindingData : e.bindingData = if e.kind.isBound then s.binding e.kind else none
  username : e.username = first.username
  authzid : e.authzid = first.authzid.getD first.username
  nonce : e.nonce = first.nonce ++ s.nonce
  found : s.credentials e.username = some stored
  saltedPassword : e.saltedPassword = stored.saltedPassword
  saltedPassword_ne_nil : e.saltedPassword ≠ []
  iterations : s.policy.minIterations.toNat ≤ stored.iterations.toNat
  clientKey : e.clientKey = s.mechanism.algorithm.hmac e.saltedPassword (utf8 "Client Key")
  storedKey : e.storedKey = s.mechanism.algorithm.hash e.clientKey
  serverFirst : e.serverFirst = ServerFirst.text ⟨e.nonce, stored.salt, stored.iterations⟩

namespace Server

variable {s : Server} {e : Exchange} {opening : Bytes} {first : ClientFirst} {stored : Credentials}

/-- The record that a first message begins is in step with it. -/
theorem Begins.coherent (h : s.Begins opening first stored e) : e.Coherent s opening first stored where
  parsed := h.parsed
  text := by
    rw [h.text, h.exchange]
    rfl
  header := by rw [h.header_eq, h.flag]
  clientFirstBare := by
    rw [← h.wellFormed.bare_eq, h.exchange]
    rfl
  kind := by rw [h.flag, BindingKind.ofFlag_flag]
  permitted := h.permitted
  supplied := h.supplied
  bindingData := h.bindingData
  username := h.username
  authzid := h.authzid
  nonce := h.nonce
  found := by rw [h.username, h.found]
  saltedPassword := by
    rw [h.exchange]
    rfl
  saltedPassword_ne_nil := by
    rw [h.exchange]
    exact h.saltedPassword_ne_nil
  iterations := h.iterations
  clientKey := by
    rw [h.exchange]
    rfl
  storedKey := by
    rw [h.exchange]
    rfl
  serverFirst := by
    rw [h.exchange]
    rfl

/-- Being in step leaves nothing of a record open: it is the one that the message begins. -/
theorem begins_of_coherent (h : e.Coherent s opening first stored) :
    s.Begins opening first stored e where
  parsed := h.parsed
  flag := BindingKind.flag_of_ofFlag h.kind
  permitted := h.permitted
  supplied := h.supplied
  bindingData := h.bindingData
  found := by rw [← h.username, h.found]
  saltedPassword_ne_nil := by
    rw [← h.saltedPassword]
    exact h.saltedPassword_ne_nil
  iterations := h.iterations
  exchange := by
    -- field by field; what is not kept from the message is made of fields that are already known
    have wellFormed := (ClientFirst.ofOctets_eq_ok_iff.mp h.parsed).1
    refine Exchange.ext ?_ rfl rfl h.username h.authzid ?_ h.nonce ?_ h.saltedPassword ?_ ?_
    · exact h.header.trans wellFormed.header_eq.symm
    · exact h.clientFirstBare.trans wellFormed.bare_eq.symm
    · rw [h.serverFirst, h.nonce]
      rfl
    · rw [h.clientKey, h.saltedPassword]
      rfl
    · rw [h.storedKey, h.clientKey, h.saltedPassword]
      rfl

/-- The message that begins a record leaves the settings as they are, and how far a server has come
is no part of what its record is in step with. -/
theorem coherent_after_iff {setup : List Operation} :
    e.Coherent (s.after (setup ++ [.message opening])) opening first stored ↔
      e.Coherent (s.after setup) opening first stored := by
  obtain ⟨state, server⟩ :
      ∃ state, s.after (setup ++ [.message opening]) = { s.after setup with state } := by
    rw [after_concat, step, Answer.turn]
    rcases receive_cases (s.after setup) opening with
      ⟨_, -, -, server, -⟩ | ⟨_, _, _, -, -, server, -⟩ | ⟨_, server, -⟩
    all_goals exact ⟨_, server⟩
  rw [server]
  exact ⟨fun h => { h with }, fun h => { h with }⟩

/-- **The record of an exchange under way is coherent in every run**, whatever messages and settings
came and in whichever order. A server awaits the final message of an exchange exactly if it got
nothing but settings and then, at last, one message, which it answered with the reply that is in the
record, and the record is in step with this message, with the credentials found for its user, and with
the settings of now. -/
theorem in_flight_exact (mechanism : Mechanism) (credentials : String → Option Credentials)
    (nonce : String) (operations : List Operation) (e : Exchange) :
    let fresh := start mechanism credentials nonce
    let s := fresh.after operations
    s.state = .awaitingFinal e ↔ ∃ setup opening first stored,
      operations = setup ++ [.message opening] ∧ Silent setup ∧
      ((fresh.after setup).receive opening).result = .ok e.serverFirst ∧
      e.Coherent s opening first stored := by
  intro fresh s
  constructor
  · intro waiting
    obtain ⟨setup, opening, first, stored, rfl, silent, begins⟩ :=
      (state_after_eq_awaitingFinal_iff_begins rfl).mp waiting
    have awaiting : (fresh.after setup).state = .awaitingFirst :=
      (state_after_eq_awaitingFirst_iff rfl).mpr silent
    have taken := takeFirst_result_eq_ok_iff_begins.mpr ⟨first, stored, begins⟩
    exact ⟨setup, opening, first, stored, rfl, silent, (receive_first_of_ok awaiting taken).2,
      coherent_after_iff.mpr begins.coherent⟩
  · rintro ⟨setup, opening, first, stored, rfl, silent, -, coherent⟩
    have begins := begins_of_coherent (coherent_after_iff.mp coherent)
    exact (state_after_eq_awaitingFinal_iff_begins rfl).mpr
      ⟨setup, opening, first, stored, rfl, silent, begins⟩

/-- A setting in front of the first message is what the record is made with; the same setting behind
it leaves no record. -/
example :
    let fresh := start ⟨.sha1, true⟩
      (fun _ => some ⟨[7], [1, 2], Policy.standard.minIterations⟩) "server"
    let setting : Operation := .setBinding fun _ => some [3, 4]
    let opening : Operation := .message (utf8 "p=tls-unique,a=admin,n=user,r=client")
    (fresh.after [opening]).phase = .aborted ∧
      (fresh.after [setting, opening]).phase = .awaitingFinal ∧
      (fresh.after [setting, opening, setting]).phase = .aborted := by
  decide +kernel

end Server

end Scram
