import Scram.Proofs.Handshake
import Scram.Proofs.Server.Collaborators

/-!
# Final messages that are refused

A final message that fails one of its checks ends the exchange for good, and no one is asked who may
act as whom (`receive_of_checkFinal_error_refuses`). Which check failed is all that remains to be
said of it.

There are two main statements. One is about messages that were altered on their way: a server that
accepts a message refuses what anyone makes of it, for the first part that was altered
(`tampering_refused`). The other is about messages that were meant for someone else: what one exchange
accepts is of no use to another one whose server put in a nonce of its own, of the same length
(`replay_refused`). Who begins the other exchange is free to choose the client's part of the nonce,
so the two nonces may be cut into their parts at different places; but the server's part is the end
of the whole, and ends of one length tell their wholes apart.

Nothing is said here about servers that use a nonce twice, nor about extensions that are altered while
the other parts are left: those are signed, and what becomes of them rests on the hash.
-/

namespace Scram.Server

/-- A message was refused with this error and the exchange is over, without anyone having been asked
who may act as whom. -/
structure Answer.Refuses (answer : Answer) (error : Error) : Prop where
  result : answer.result = .error error
  phase : answer.server.phase = .aborted
  identity? : answer.server.identity? = none
  unasked : ∀ authcid authzid, .askedAuthorization authcid authzid ∉ answer.events

variable {s s' : Server} {e e' : Exchange} {message : Bytes} {final : ClientFinal}

/-- The authorizer is asked by final messages that pass their checks only. -/
theorem unasked_of_checkFinal_error {error : Error} (waiting : s.state = .awaitingFinal e)
    (read : ClientFinal.parse message = .ok final) (failed : s.checkFinal e final = .error error)
    (authcid authzid : String) :
    .askedAuthorization authcid authzid ∉ (s.receive message).events := by
  intro asked
  have inStep : .askedAuthorization authcid authzid ∈ (s.step (.message message)).events := asked
  obtain ⟨e', message', final', waiting', same, read', checked, -⟩ :=
    askedAuthorization_mem_step_iff.mp inStep
  cases same
  obtain rfl : e = e' := State.awaitingFinal.inj (waiting.symm.trans waiting')
  obtain rfl : final = final' := Except.ok.inj (read.symm.trans read')
  rw [failed] at checked
  contradiction

/-- **A final message that fails a check** is refused for what the check says, and ends the exchange. -/
theorem receive_of_checkFinal_error_refuses {error : Error} (waiting : s.state = .awaitingFinal e)
    (read : ClientFinal.parse message = .ok final) (failed : s.checkFinal e final = .error error) :
    (s.receive message).Refuses error := by
  have refused := receive_of_checkFinal_error waiting read failed
  obtain ⟨aborted, unidentified⟩ := aborted_of_receive_final_error waiting refused
  exact ⟨refused, aborted, unidentified, unasked_of_checkFinal_error waiting read failed⟩

/-! ## Altered messages -/

/-- What is accepted has passed the three checks. -/
theorem checks_of_accepted {binding nonce extensions proof : Bytes} {reply : String}
    (waiting : s.state = .awaitingFinal e)
    (h : ClientFinal.WellFormed binding nonce extensions proof)
    (accepted : (s.receive (ClientFinal.octets binding nonce extensions proof)).result = .ok reply) :
    Base64.decode? binding = some e.bindingValue ∧ nonce = utf8 e.nonce ∧
      Base64.decode? proof = some (s.mechanism.algorithm.clientProof e.clientKey e.storedKey
        (e.transcript (ClientFinal.signedOctets binding nonce extensions))) := by
  obtain ⟨identity, taken⟩ := exists_takeFinal_of_receive waiting accepted
  obtain ⟨final, read, checked, -⟩ := takeFinal_result_eq_ok_iff.mp taken
  obtain rfl := Except.ok.inj ((ClientFinal.parse_octets h).symm.trans read)
  exact checkFinal_eq_ok_iff.mp checked

/-- **An altered message is refused for what was altered.** Take the parts of a final message that a
server accepts. With another binding value, the binding is refused, whatever becomes of the parts behind
it; with the same binding and another nonce, the nonce; and with nothing else but another proof, the
proof. A value is another one if it does not read as the same octets, which includes that it cannot be
read. The exchange is over then, and no one has been asked who may act as whom. -/
theorem tampering_refused {binding nonce extensions proof : Bytes} {reply : String}
    (waiting : s.state = .awaitingFinal e)
    (wellFormed : ClientFinal.WellFormed binding nonce extensions proof)
    (accepted : (s.receive (ClientFinal.octets binding nonce extensions proof)).result = .ok reply) :
    (∀ binding' nonce' extensions' proof',
      ClientFinal.WellFormed binding' nonce' extensions' proof' →
      Base64.decode? binding' ≠ Base64.decode? binding →
        (s.receive (ClientFinal.octets binding' nonce' extensions' proof')).Refuses .bindingMismatch) ∧
    (∀ nonce' extensions' proof',
      ClientFinal.WellFormed binding nonce' extensions' proof' → nonce' ≠ nonce →
        (s.receive (ClientFinal.octets binding nonce' extensions' proof')).Refuses .nonceMismatch) ∧
    ∀ proof', proof' ≠ [] → comma ∉ proof' → Base64.decode? proof' ≠ Base64.decode? proof →
      (s.receive (ClientFinal.octets binding nonce extensions proof')).Refuses .wrongProof := by
  -- each altered part fails its own check, behind those that the accepted parts pass
  obtain ⟨bound, sameNonce, proved⟩ := checks_of_accepted waiting wellFormed accepted
  refine ⟨?_, ?_, ?_⟩
  · intro binding' nonce' extensions' proof' h differ
    rw [bound] at differ
    apply receive_of_checkFinal_error_refuses waiting (ClientFinal.parse_octets h)
    rw [checkFinal_eq, if_neg differ]
  · intro nonce' extensions' proof' h differ
    rw [sameNonce] at differ
    apply receive_of_checkFinal_error_refuses waiting (ClientFinal.parse_octets h)
    rw [checkFinal_eq, if_pos bound, if_neg differ]
  · intro proof' nonempty absent differ
    rw [proved] at differ
    have h : ClientFinal.WellFormed binding nonce extensions proof' :=
      { wellFormed with proof_ne_nil := nonempty, comma_not_mem_proof := absent }
    apply receive_of_checkFinal_error_refuses waiting (ClientFinal.parse_octets h)
    rw [checkFinal_eq, if_pos bound, if_pos sameNonce, if_neg differ]

/-- A transport whose binding data look like a message, and parts that cannot be read, are cut short, or
look like a proof. -/
theorem tampering_refused_of_bound_client :
    let c := (Client.start .sha512 "user" "pencil" (some "admin") ⟨"client", by decide⟩).withBinding
      .tlsUnique [0x2c, 0x70, 0x3d]
    let count : IterationCount := ⟨4096, by decide, by decide⟩
    let fresh := ((start ⟨.sha512, true⟩
      (fun _ => some (.ofPassword .sha512 "pencil" [] count)) "server").withAuthorizer
      fun _ authzid => some authzid).withBinding fun _ => some [0x2c, 0x70, 0x3d]
    let e := Handshake.Fits.exchange c fresh [] count
    let s := { fresh with state := .awaitingFinal e }
    let evidence := Handshake.Fits.evidence c fresh [] count
    let binding := Base64.encode c.first.1.binding
    let nonce := utf8 "clientserver"
    let proof := Base64.encode evidence.clientProof
    s.state = .awaitingFinal e ∧ ClientFinal.WellFormed binding nonce [] proof ∧
      (s.receive (ClientFinal.octets binding nonce [] proof)).result =
        .ok (ServerFinal.signatureText evidence.serverSignature) ∧
      (s.receive (ClientFinal.octets [0xff] (utf8 "n") (utf8 ",p=x") (utf8 "p="))).Refuses
        .bindingMismatch ∧
      (s.receive (ClientFinal.octets binding (utf8 "client") (utf8 ",server") proof)).Refuses
        .nonceMismatch ∧
      (s.receive (ClientFinal.octets binding nonce [] (utf8 "p="))).Refuses .wrongProof := by
  intro c count fresh e s evidence binding nonce proof
  have fits : Handshake.Fits c fresh [] count "admin" :=
    { presentable := ⟨by decide, by decide⟩
      fresh := rfl
      algorithm := rfl
      nonce := by decide
      credentials := rfl
      iterations := Nat.le_refl _
      permitted := rfl
      binding := fun _ => rfl
      authorized := rfl }
  have wellFormed : ClientFinal.WellFormed binding nonce [] proof :=
    ClientFinal.wellFormed_text c.binding_ne_nil (by decide)
      (c.first.1.evidence_clientProof_ne_nil e.serverFirst (Handshake.Fits.offer c fresh [] count))
  have accepted : (s.receive (ClientFinal.octets binding nonce [] proof)).result =
      .ok (ServerFinal.signatureText evidence.serverSignature) := by
    have text : utf8 (Handshake.Fits.final c fresh [] count) =
      ClientFinal.octets binding nonce [] proof := ClientFinal.utf8_text _ _ _
    have taken := fits.takeFinal
    rw [text] at taken
    exact (receive_final_of_ok (s := s) rfl taken).2
  obtain ⟨binding', nonce', proof'⟩ := tampering_refused (s := s) rfl wellFormed accepted
  have unreadable {value : Bytes} (unread : Base64.decode? value = none) (other : Bytes) :
      Base64.decode? value ≠ Base64.decode? (Base64.encode other) := by
    rw [unread, Base64.decode?_encode]
    exact nofun
  refine ⟨rfl, wellFormed, accepted, ?_, ?_, ?_⟩
  · apply binding'
    · exact ⟨by decide, by decide, by decide, .inr ⟨_, rfl⟩, by decide, by decide⟩
    · exact unreadable (by decide) _
  · apply nonce'
    · exact { wellFormed with nonce := by decide, extensions := .inr ⟨_, rfl⟩ }
    · decide
  · exact proof' _ (by decide) (by decide) (unreadable (by decide) _)

/-! ## Messages of another exchange -/

/-- A foreign nonce fails its check, unless the binding has failed before it. -/
theorem checkFinal_of_foreign_nonce (foreign : final.nonce ≠ utf8 e.nonce) :
    s.checkFinal e final = .error .bindingMismatch ∨
      s.checkFinal e final = .error .nonceMismatch := by
  have failed : s.checkFinal e final ≠ .ok () := by
    intro checked
    exact foreign (checkFinal_eq_ok_iff.mp checked).2.1
  rw [checkFinal_eq_of_ne_ok failed, if_neg foreign]
  split
  · exact .inr rfl
  · exact .inl rfl

/-- Exchanges whose servers put in different nonces of one length have different nonces themselves. -/
theorem Begins.nonce_ne {opening opening' : Bytes} {first first' : ClientFirst}
    {credentials credentials' : Credentials} (h : s.Begins opening first credentials e)
    (h' : s'.Begins opening' first' credentials' e') (differ : s.nonce ≠ s'.nonce)
    (length : (utf8 s.nonce).length = (utf8 s'.nonce).length) : utf8 e.nonce ≠ utf8 e'.nonce := by
  intro same
  rw [h.nonce, h'.nonce, utf8_append, utf8_append] at same
  apply differ
  apply utf8_injective
  exact (List.append_inj' same length).2

/-- **A replayed final message is refused.** Let two servers put in different nonces of one length,
and let each have answered some first message. A final message that the one accepts is then refused
by the other, for its binding or for its nonce, and ends the exchange there. -/
theorem replay_refused {opening opening' : Bytes} {offer offer' reply : String}
    (differ : s.nonce ≠ s'.nonce) (length : (utf8 s.nonce).length = (utf8 s'.nonce).length)
    (fresh : s.state = .awaitingFirst) (opened : (s.receive opening).result = .ok offer)
    (fresh' : s'.state = .awaitingFirst) (opened' : (s'.receive opening').result = .ok offer')
    (accepted : ((s.receive opening).server.receive message).result = .ok reply) :
    ((s'.receive opening').server.receive message).Refuses .bindingMismatch ∨
      ((s'.receive opening').server.receive message).Refuses .nonceMismatch := by
  obtain ⟨e, begun, -, server⟩ := exists_takeFirst_of_receive fresh opened
  obtain ⟨e', begun', -, server'⟩ := exists_takeFirst_of_receive fresh' opened'
  have waiting : (s.receive opening).server.state = .awaitingFinal e := congrArg state server
  have waiting' : (s'.receive opening').server.state = .awaitingFinal e' := congrArg state server'
  obtain ⟨first, credentials, h⟩ := takeFirst_result_eq_ok_iff_begins.mp begun
  obtain ⟨first', credentials', h'⟩ := takeFirst_result_eq_ok_iff_begins.mp begun'
  -- what was accepted carries the nonce of the exchange that accepted it
  obtain ⟨identity, taken⟩ := exists_takeFinal_of_receive waiting accepted
  obtain ⟨final, read, checked, -⟩ := takeFinal_result_eq_ok_iff.mp taken
  have foreign : final.nonce ≠ utf8 e'.nonce := by
    rw [(checkFinal_eq_ok_iff.mp checked).2.1]
    exact h.nonce_ne h' differ length
  rcases checkFinal_of_foreign_nonce foreign with failed | failed
  · exact .inl (receive_of_checkFinal_error_refuses waiting' read failed)
  · exact .inr (receive_of_checkFinal_error_refuses waiting' read failed)

/-- A message replayed to a server that put in another nonce, in an exchange begun by someone who
makes the client's nonce out of all of the first one. -/
theorem replay_refused_of_longer_nonce :
    let c := Client.start .sha1 "user" "pencil" none ⟨"client", by decide⟩
    let c' := Client.start .sha256 "admin" "" none ⟨"clientserver", by decide⟩
    let count : IterationCount := ⟨4096, by decide, by decide⟩
    let stored : Credentials := ⟨[7], [], count⟩
    let s := start ⟨.sha1, false⟩ (fun _ => some (.ofPassword .sha1 "pencil" [] count)) "server"
    let s' := start ⟨.sha256, false⟩ (fun _ => some stored) "revres"
    let message := utf8 (Handshake.Fits.final c s [] count)
    let offer := (Handshake.Fits.exchange c s [] count).serverFirst
    let offer' := (s'.exchange c'.request .unsupported none stored).serverFirst
    let reply := ServerFinal.signatureText (Handshake.Fits.evidence c s [] count).serverSignature
    s.nonce ≠ s'.nonce ∧ (utf8 s.nonce).length = (utf8 s'.nonce).length ∧
      s.state = .awaitingFirst ∧ (s.receive (utf8 c.first.2)).result = .ok offer ∧
      s'.state = .awaitingFirst ∧ (s'.receive (utf8 c'.first.2)).result = .ok offer' ∧
      ((s.receive (utf8 c.first.2)).server.receive message).result = .ok reply ∧
      (((s'.receive (utf8 c'.first.2)).server.receive message).Refuses .bindingMismatch ∨
        ((s'.receive (utf8 c'.first.2)).server.receive message).Refuses .nonceMismatch) := by
  intro c c' count stored s s' message offer offer' reply
  have fits : Handshake.Fits c s [] count "user" :=
    { presentable := ⟨by decide, by decide⟩
      fresh := rfl
      algorithm := rfl
      nonce := by decide
      credentials := rfl
      iterations := Nat.le_refl _
      permitted := rfl
      binding := fun bound => nomatch bound
      authorized := rfl }
  have differ : s.nonce ≠ s'.nonce := by decide
  have length : (utf8 s.nonce).length = (utf8 s'.nonce).length := by decide
  have begun' : (s'.takeFirst (utf8 c'.first.2)).result =
      .ok (s'.exchange c'.request .unsupported none stored) :=
    takeFirst_result_eq_ok_iff.mpr ⟨c'.request, .unsupported, none, stored,
      Client.ofOctets_first ⟨by decide, by decide⟩, rfl, rfl, rfl,
      lookUp_result_eq_ok_iff.mpr ⟨rfl, by decide, Nat.le_refl _⟩, rfl⟩
  obtain ⟨opened, accepted⟩ := fits.receive_result
  obtain ⟨-, opened'⟩ := receive_first_of_ok rfl begun'
  exact ⟨differ, length, rfl, opened, rfl, opened', accepted,
    replay_refused differ length rfl opened rfl opened' accepted⟩

end Scram.Server
