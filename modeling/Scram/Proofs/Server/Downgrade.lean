import Scram.Proofs.Handshake
import Scram.Proofs.Server.History

/-!
# Against downgrades

Someone in the middle may take the channel binding out of what the two ends offer each other, or
answer for a server with credentials that were hashed less often. The policy against this is looked
at with the first message, but it is the final message that finishes an exchange, and new settings
may come before, between and after the two. `not_downgraded` says that the gap does not matter: a
server that is finished took both messages under one policy and one source of binding data, and the
policy was upheld under these.

That the settings are the same at both is no property of the messages. A finished server took its
final message right after its first one, since a setting in between would have ended the exchange
(`state_after_eq_finished_iff`), and a message leaves the settings alone (`settings_receive`).
-/

namespace Scram

/-- Two messages of a client, and the credentials that they were checked against, which uphold what
the mechanism and these settings ask: with channel binding required, the client asked for one of the
two bindings there are and repeated its header with the transport's data of that kind; without, it
has no channel binding, or takes the server to have none where none is advertised, and repeated its
header alone; and the password is hashed often enough. -/
structure NotDowngraded (m : Mechanism) (policy : Policy) (binding : BindingSource)
    (first : ClientFirst) (final : ClientFinal) (stored : Credentials) : Prop where
  bound : m.plus → ∃ kind data, (kind = .tlsUnique ∨ kind = .tlsServerEndPoint) ∧
    first.flag = .required kind.name ∧ binding kind = some data ∧
    Base64.decode? final.binding = some (utf8 first.header ++ data)
  unbound : ¬m.plus →
    (first.flag = .unsupported ∨ first.flag = .unused ∧ policy.advertisesBinding = false) ∧
    Base64.decode? final.binding = some (utf8 first.header)
  iterations : policy.minIterations.toNat ≤ stored.iterations.toNat

namespace Server

variable {s : Server} {opening : Bytes} {first : ClientFirst} {final : ClientFinal}
  {stored : Credentials} {e : Exchange}

/-- What the first message was checked for, and the final message against its exchange. -/
theorem Begins.notDowngraded (h : s.Begins opening first stored e)
    (declared : Base64.decode? final.binding = some e.bindingValue) :
    NotDowngraded s.mechanism s.policy s.binding first final stored where
  bound := by
    intro plus
    have isBound := Mechanism.permit_eq_ok_iff.mp h.permitted
    rw [if_pos plus] at isBound
    obtain ⟨data, supplied⟩ := Option.isSome_iff_exists.mp (h.supplied isBound)
    have value : e.bindingValue = utf8 first.header ++ data := by
      rw [Exchange.bindingValue, bindingValue, h.header, h.bindingData, if_pos isBound,
        if_pos isBound, supplied]
      rfl
    refine ⟨e.kind, data, BindingKind.isBound_iff.mp isBound, ?_, supplied, by rw [declared, value]⟩
    rw [h.flag, BindingKind.flag_of_isBound isBound]
  unbound := by
    intro plain
    have kind := Mechanism.permit_eq_ok_iff.mp h.permitted
    rw [if_neg plain] at kind
    have value : e.bindingValue = utf8 first.header := by
      rw [Exchange.bindingValue, bindingValue, h.header]
      rcases kind with kind | ⟨kind, -⟩
      · rw [kind]
        exact List.append_nil _
      · rw [kind]
        exact List.append_nil _
    refine ⟨kind.imp ?_ ?_, by rw [declared, value]⟩
    · intro kind
      rw [h.flag, kind]
      rfl
    · rintro ⟨kind, silent⟩
      rw [h.flag, kind]
      exact ⟨rfl, silent⟩
  iterations := h.iterations

/-- **A finished server was not downgraded**, whatever messages and settings it got and in whichever
order: it took the first message that it got and the final one right after it, and these uphold the
policy under the settings at either of them, with the credentials stored of the user whom the first
message names, which the keys of the exchange are made from. -/
theorem not_downgraded {mechanism : Mechanism} {credentials : String → Option Credentials}
    {nonce : String} {operations : List Operation}
    (finished : ((start mechanism credentials nonce).after operations).phase = .finished) :
    ∃ setup opening message later, Silent setup ∧
      operations = setup ++ .message opening :: .message message :: later ∧
      let s := (start mechanism credentials nonce).after setup
      let s' := (s.receive opening).server
      ∃ first final stored e reply reply', (s.receive opening).result = .ok reply ∧
        (s'.receive message).result = .ok reply' ∧ ClientFirst.ofOctets opening = .ok first ∧
        ClientFinal.parse message = .ok final ∧ credentials first.username = some stored ∧
        s'.state = .awaitingFinal e ∧ e.saltedPassword = stored.saltedPassword ∧
        NotDowngraded mechanism s.policy s.binding first final stored ∧
        NotDowngraded mechanism s'.policy s'.binding first final stored := by
  obtain ⟨identity, state⟩ := phase_eq_finished_iff.mp finished
  obtain ⟨setup, opening, e, message, reply, later, rfl, silent, begun, taken⟩ :=
    (state_after_eq_finished_iff rfl).mp state
  refine ⟨setup, opening, message, later, silent, rfl, ?_⟩
  intro s s'
  have fresh : s.state = .awaitingFirst := (state_after_eq_awaitingFirst_iff rfl).mpr silent
  obtain ⟨mechanismEq, credentialsEq, -⟩ := fixed_after (start mechanism credentials nonce) setup
  -- the first message leaves the settings, and the final one comes right behind it
  obtain ⟨policy, -, binding⟩ := settings_receive s opening
  obtain ⟨server, answered⟩ : s' = _ ∧ (s.receive opening).result = _ := receive_first_of_ok fresh begun
  have waiting : s'.state = .awaitingFinal e := by rw [server]
  rw [after_concat] at taken
  obtain ⟨first, stored, h⟩ := takeFirst_result_eq_ok_iff_begins.mp begun
  obtain ⟨final, read, checked, -⟩ := takeFinal_result_eq_ok_iff.mp taken
  have upheld := h.notDowngraded (checkFinal_eq_ok_iff.mp checked).1
  rw [mechanismEq] at upheld
  refine ⟨first, final, stored, e, e.serverFirst, reply, answered,
    (receive_final_of_ok waiting taken).2, h.parsed, read, ?_, waiting, ?_, upheld, ?_⟩
  · rw [← h.found, credentialsEq]
    rfl
  · rw [h.exchange]
    rfl
  · rw [policy, binding]
    exact upheld

/-- A server that has its binding and its policy set before the exchange, and both undone behind it. -/
theorem not_downgraded_of_late_settings :
    let c := (Client.start .sha1 "user" "pencil" (some "admin") ⟨"client", by decide⟩).withBinding
      .tlsUnique [0x2c, 0x2c]
    let count : IterationCount := ⟨4096, by decide, by decide⟩
    let mechanism : Mechanism := ⟨.sha1, true⟩
    let credentials := fun _ => some (Credentials.ofPassword .sha1 "pencil" [] count)
    let settings : List Operation := [.setBinding fun _ => some [0x2c, 0x2c], .setPolicy ⟨count, true⟩,
      .setAuthorizer fun _ authzid => some authzid]
    let fitting := (start mechanism credentials "server").after settings
    let operations := settings ++ .message (utf8 c.first.2) ::
      .message (utf8 (Handshake.Fits.final c fitting [] count)) ::
      [.setBinding .absent, .setPolicy ⟨⟨4294967295, by decide, by decide⟩, false⟩]
    ((start mechanism credentials "server").after operations).phase = .finished ∧
      ∃ setup opening message later, Silent setup ∧
        operations = setup ++ .message opening :: .message message :: later ∧
        let s := (start mechanism credentials "server").after setup
        let s' := (s.receive opening).server
        ∃ first final stored e reply reply', (s.receive opening).result = .ok reply ∧
          (s'.receive message).result = .ok reply' ∧ ClientFirst.ofOctets opening = .ok first ∧
          ClientFinal.parse message = .ok final ∧ credentials first.username = some stored ∧
          s'.state = .awaitingFinal e ∧ e.saltedPassword = stored.saltedPassword ∧
          NotDowngraded mechanism s.policy s.binding first final stored ∧
          NotDowngraded mechanism s'.policy s'.binding first final stored := by
  intro c count mechanism credentials settings fitting operations
  have fits : Handshake.Fits c fitting [] count "admin" :=
    { presentable := ⟨by decide, by decide⟩
      fresh := rfl
      algorithm := rfl
      nonce := by decide
      credentials := rfl
      iterations := Nat.le_refl _
      permitted := rfl
      binding := fun _ => rfl
      authorized := rfl }
  have begun := fits.takeFirst
  obtain ⟨server, -⟩ : (fitting.receive (utf8 c.first.2)).server = _ ∧ _ :=
    receive_first_of_ok fits.fresh begun
  have state : ((start mechanism credentials "server").after operations).state = .finished "admin" := by
    have silent : Silent settings := by simp [Silent, settings, Operation.reconfigures]
    refine (state_after_eq_finished_iff rfl).mpr
      ⟨settings, _, Handshake.Fits.exchange c fitting [] count, _,
        ServerFinal.signatureText (Handshake.Fits.evidence c fitting [] count).serverSignature, _, rfl,
        silent, begun, ?_⟩
    rw [after_concat, step, Answer.turn, server]
    exact fits.takeFinal
  have finished : ((start mechanism credentials "server").after operations).phase = .finished :=
    congrArg State.phase state
  exact ⟨finished, not_downgraded finished⟩

end Server

end Scram
