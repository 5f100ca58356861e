import Scram.Proofs.Server.History

/-!
# Whom a server asks, and when

A server has three collaborators: the transport, for binding data; the store of credentials; and the
authorizer. Over a whole run each of them is asked once at most, in this order, and only when
everything that comes before in the protocol is settled: `collaborators`. A client that was stripped
of its channel binding therefore learns nothing about who has an account, and no one decides about an
identity before the proof.

The laws of single steps are about `questions`, the events in which someone is asked; the notices
between them are left aside. `questions_step` is all that one operation can ask.
-/

namespace Scram

/-- Whether someone is asked in an event, rather than something noted down. -/
def Event.asks : Event → Bool
  | askedBinding _ | lookedUp _ | askedAuthorization .. => true
  | noted _ => false

namespace Audit

variable {α β : Type} {x : Audit α} {f : α → Audit β}

/-- Whom a step asks, in order. -/
def questions (x : Audit α) : List Event := x.events.filter Event.asks

/-- A step that passes is followed by the questions of the next. -/
theorem questions_bind_of_ok {a : α} (passed : x.result = .ok a) :
    (x >>= f).questions = x.questions ++ (f a).questions := by
  obtain ⟨events, result⟩ := x
  cases passed
  exact List.filter_append ..

/-- A step that fails leaves nothing more to ask. -/
theorem questions_bind_of_error {error : Error} (failed : x.result = .error error) :
    (x >>= f).questions = x.questions := by
  obtain ⟨events, result⟩ := x
  cases failed
  rfl

/-- What follows adds nothing where it asks no one. -/
theorem questions_bind_of_silent (silent : ∀ a, (f a).questions = []) :
    (x >>= f).questions = x.questions := by
  cases result : x.result with
  | error => exact questions_bind_of_error result
  | ok a => rw [questions_bind_of_ok result, silent, List.append_nil]

end Audit

/-! ## Single steps -/

/-- The transport is asked for data of bound kinds, and of no others. -/
theorem BindingSource.questions_resolve (source : BindingSource) (kind : BindingKind) :
    (source.resolve kind).questions = if kind.isBound then [.askedBinding kind] else [] := by
  unfold resolve
  cases kind.isBound with
  | false => rfl
  | true => cases source kind <;> rfl

/-- Binding data is had where it is not needed, or where the transport has some. -/
theorem BindingSource.exists_resolve_result_eq_ok_iff {source : BindingSource} {kind : BindingKind} :
    (∃ data, (source.resolve kind).result = .ok data) ↔ (kind.isBound → (source kind).isSome) := by
  simp only [resolve_result_eq_ok_iff]
  cases kind.isBound with
  | false => simp
  | true => simp [Option.isSome_iff_exists]

namespace Server

variable {s : Server} {e : Exchange} {opening message : Bytes} {first : ClientFirst}
  {kind : BindingKind}

/-- The store is asked once, whatever comes of it. -/
theorem questions_lookUp (s : Server) (username : String) :
    (s.lookUp username).questions = [.lookedUp username] := by
  unfold lookUp
  cases s.credentials username with
  | none => rfl
  | some credentials =>
    dsimp only
    split
    · rfl
    · split <;> rfl

/-- The authorizer is asked once, about the user and the identity of the exchange. -/
theorem questions_askAuthorization (s : Server) (e : Exchange) :
    (s.askAuthorization e).questions = [.askedAuthorization e.username e.authzid] := by
  unfold askAuthorization
  cases s.authorize e.username e.authzid <;> rfl

/-- A first message that asks for a kind of binding which the server's settings permit. -/
structure Permits (s : Server) (opening : Bytes) (first : ClientFirst) (kind : BindingKind) :
    Prop where
  parsed : ClientFirst.ofOctets opening = .ok first
  known : BindingKind.ofFlag first.flag = .ok kind
  permitted : s.mechanism.permit kind s.policy.advertisesBinding = .ok ()

/-- Behind a kind that is permitted, the transport is asked where data is needed, and the store
where none is missing. -/
theorem questions_takeFirst_of_permits (h : s.Permits opening first kind) :
    (s.takeFirst opening).questions = (if kind.isBound then [.askedBinding kind] else []) ++
      if kind.isBound → (s.binding kind).isSome then [.lookedUp first.username] else [] := by
  rw [takeFirst, h.parsed, Audit.of_ok_bind, h.known, Audit.of_ok_bind, h.permitted,
    Audit.of_ok_bind, ← BindingSource.questions_resolve s.binding]
  split
  · next supplied =>
    obtain ⟨data, resolved⟩ := BindingSource.exists_resolve_result_eq_ok_iff.mpr supplied
    rw [Audit.questions_bind_of_ok resolved, Audit.questions_bind_of_silent fun _ => rfl,
      questions_lookUp]
  · next unsupplied =>
    cases resolved : (s.binding.resolve kind).result with
    | error => rw [Audit.questions_bind_of_error resolved, List.append_nil]
    | ok data => exact absurd (BindingSource.exists_resolve_result_eq_ok_iff.mp ⟨data, resolved⟩) unsupplied

/-- A message that is not read, or whose kind is not permitted, leads to no question. -/
theorem questions_takeFirst_of_not_permits (h : ∀ first kind, ¬s.Permits opening first kind) :
    (s.takeFirst opening).questions = [] := by
  rw [takeFirst]
  cases parsed : ClientFirst.ofOctets opening with
  | error => rfl
  | ok first =>
    rw [Audit.of_ok_bind]
    cases known : BindingKind.ofFlag first.flag with
    | error => rfl
    | ok kind =>
      rw [Audit.of_ok_bind]
      cases permitted : s.mechanism.permit kind s.policy.advertisesBinding with
      | error => rfl
      | ok => exact absurd ⟨parsed, known, permitted⟩ (h first kind)

/-- Behind the checks the authorizer is asked. -/
theorem questions_takeFinal_of_checked {final : ClientFinal}
    (read : ClientFinal.parse message = .ok final) (checked : s.checkFinal e final = .ok ()) :
    (s.takeFinal e message).questions = [.askedAuthorization e.username e.authzid] := by
  rw [takeFinal_of_parse read, checked, Audit.of_ok_bind,
    Audit.questions_bind_of_silent fun _ => rfl, questions_askAuthorization]

/-- A final message that is not read or does not pass its checks leads to no question. -/
theorem questions_takeFinal_of_unchecked
    (h : ∀ final, ClientFinal.parse message = .ok final → s.checkFinal e final ≠ .ok ()) :
    (s.takeFinal e message).questions = [] := by
  cases read : ClientFinal.parse message with
  | error =>
    rw [takeFinal_of_unread read]
    rfl
  | ok final =>
    cases checked : s.checkFinal e final with
    | error => rw [takeFinal_of_parse read, checked, Audit.of_error_bind]; rfl
    | ok => exact absurd checked (h final read)

/-- A first message that is read asks about its own kind of binding and its own user, and in this
order. -/
theorem questions_takeFirst_sublist (parsed : ClientFirst.ofOctets opening = .ok first)
    (known : BindingKind.ofFlag first.flag = .ok kind) :
    (s.takeFirst opening).questions.Sublist [.askedBinding kind, .lookedUp first.username] := by
  -- what a refused message asks is nothing, and so a part of anything
  by_cases permits : s.Permits opening first kind
  · rw [questions_takeFirst_of_permits permits]
    have binding : (if kind.isBound then [Event.askedBinding kind] else []).Sublist
        [.askedBinding kind] := by split <;> simp
    have credentials : (if kind.isBound → (s.binding kind).isSome then
        [Event.lookedUp first.username] else []).Sublist [.lookedUp first.username] := by
      split <;> simp
    exact binding.append credentials
  · rw [questions_takeFirst_of_not_permits]
    · exact List.nil_sublist _
    · intro first' kind' h
      obtain rfl := Except.ok.inj (parsed.symm.trans h.parsed)
      obtain rfl := Except.ok.inj (known.symm.trans h.known)
      exact permits h

/-- Whatever the first message is, it asks the transport once at most and then the store once at
most. -/
theorem exists_questions_takeFirst_sublist : ∃ kind username,
    (s.takeFirst opening).questions.Sublist [.askedBinding kind, .lookedUp username] := by
  by_cases permits : ∃ first kind, s.Permits opening first kind
  · obtain ⟨first, kind, h⟩ := permits
    exact ⟨kind, first.username, questions_takeFirst_sublist h.parsed h.known⟩
  · simp only [not_exists] at permits
    rw [questions_takeFirst_of_not_permits permits]
    exact ⟨.unsupported, "", List.nil_sublist _⟩

/-- Whatever the final message is, it asks the authorizer once at most. -/
theorem questions_takeFinal_sublist :
    (s.takeFinal e message).questions.Sublist [.askedAuthorization e.username e.authzid] := by
  by_cases checked : ∃ final, ClientFinal.parse message = .ok final ∧ s.checkFinal e final = .ok ()
  · obtain ⟨final, read, checked⟩ := checked
    have asked := questions_takeFinal_of_checked read checked
    exact asked ▸ List.Sublist.refl _
  · simp only [not_exists, not_and] at checked
    rw [questions_takeFinal_of_unchecked checked]
    exact List.nil_sublist _

/-! ## One operation -/

/-- Whom an operation makes the server ask, in order. -/
def Turn.questions (turn : Turn) : List Event := turn.events.filter Event.asks

/-- Receiving a message asks what its step asks; what is noted down is no question. -/
theorem questions_turn (s : Server) (message : Bytes) :
    (s.receive message).turn.questions = (s.take message).questions := by
  unfold receive Answer.turn
  cases taken : (s.take message).result with
  | ok => simp only [taken, Turn.questions, Audit.questions]
  | error => simp [taken, Turn.questions, Audit.questions, Event.asks]

/-- **All that one operation can ask**: a message asks what its step asks, in the two phases that
await one, and nothing else asks at all. -/
theorem questions_step (s : Server) (operation : Operation) :
    (s.step operation).questions =
      match s.state, operation with
      | .awaitingFirst, .message octets => (s.takeFirst octets).questions
      | .awaitingFinal e, .message octets => (s.takeFinal e octets).questions
      | _, _ => [] := by
  cases operation with
  | message octets =>
    rw [step, questions_turn, take]
    cases s.state with
    | awaitingFirst => exact Audit.questions_bind_of_silent fun _ => rfl
    | awaitingFinal e => exact Audit.questions_bind_of_silent fun _ => rfl
    | finished => rfl
    | aborted => rfl
  | setPolicy => cases s.state <;> rfl
  | setAuthorizer => cases s.state <;> rfl
  | setBinding => cases s.state <;> rfl

/-- What a message can ask while the first one is awaited. -/
theorem mem_questions_takeFirst_iff {event : Event} :
    event ∈ (s.takeFirst opening).questions ↔ ∃ first kind, s.Permits opening first kind ∧
      (kind.isBound ∧ event = .askedBinding kind ∨
        (kind.isBound → (s.binding kind).isSome) ∧ event = .lookedUp first.username) := by
  constructor
  · intro asked
    by_cases permits : ∃ first kind, s.Permits opening first kind
    · obtain ⟨first, kind, h⟩ := permits
      rw [questions_takeFirst_of_permits h, List.mem_append] at asked
      refine ⟨first, kind, h, asked.imp ?_ ?_⟩
      · intro mem
        split at mem <;> simp_all
      · intro mem
        split at mem <;> simp_all
    · simp only [not_exists] at permits
      rw [questions_takeFirst_of_not_permits permits] at asked
      contradiction
  · rintro ⟨first, kind, h, asked⟩
    rw [questions_takeFirst_of_permits h, List.mem_append]
    refine asked.imp ?_ ?_
    · rintro ⟨bound, rfl⟩
      rw [if_pos bound]
      exact List.mem_singleton_self _
    · rintro ⟨supplied, rfl⟩
      rw [if_pos supplied]
      exact List.mem_singleton_self _

/-- What a message can ask while the final one is awaited. -/
theorem mem_questions_takeFinal_iff {event : Event} :
    event ∈ (s.takeFinal e message).questions ↔ ∃ final, ClientFinal.parse message = .ok final ∧
      s.checkFinal e final = .ok () ∧ event = .askedAuthorization e.username e.authzid := by
  constructor
  · intro asked
    by_cases checked : ∃ final, ClientFinal.parse message = .ok final ∧ s.checkFinal e final = .ok ()
    · obtain ⟨final, read, checked⟩ := checked
      rw [questions_takeFinal_of_checked read checked, List.mem_singleton] at asked
      exact ⟨final, read, checked, asked⟩
    · simp only [not_exists, not_and] at checked
      rw [questions_takeFinal_of_unchecked checked] at asked
      contradiction
  · rintro ⟨final, read, checked, rfl⟩
    rw [questions_takeFinal_of_checked read checked]
    exact List.mem_singleton_self _

/-- A question is asked in an operation where the step of its phase asks it. -/
theorem mem_events_step_iff {operation : Operation} {event : Event} (asks : event.asks) :
    event ∈ (s.step operation).events ↔ ∃ octets, operation = .message octets ∧
      (s.state = .awaitingFirst ∧ event ∈ (s.takeFirst octets).questions ∨
        ∃ e, s.state = .awaitingFinal e ∧ event ∈ (s.takeFinal e octets).questions) := by
  have law : event ∈ (s.step operation).events ↔ event ∈ (s.step operation).questions := by
    simp [Turn.questions, asks]
  rw [law, questions_step]
  cases operation with
  | message octets => cases s.state <;> simp
  | setPolicy => cases s.state <;> simp
  | setAuthorizer => cases s.state <;> simp
  | setBinding => cases s.state <;> simp

/-- A bound kind is permitted exactly by the mechanisms with channel binding. -/
theorem permit_eq_ok_iff_of_isBound (bound : kind.isBound) (m : Mechanism) (advertises : Bool) :
    m.permit kind advertises = .ok () ↔ m.plus := by
  have unbound : ¬(kind = .unsupported ∨ kind = .unused ∧ advertises = false) := by
    rintro (rfl | ⟨rfl, -⟩) <;> contradiction
  rw [Mechanism.permit_eq_ok_iff]
  cases m.plus with
  | true => exact iff_of_true bound rfl
  | false => exact iff_of_false unbound Bool.false_ne_true

/-- The transport is asked by a first message that requires a kind of binding, where the mechanism
does too. -/
theorem askedBinding_mem_step_iff {operation : Operation} :
    .askedBinding kind ∈ (s.step operation).events ↔ s.state = .awaitingFirst ∧
      ∃ opening first, operation = .message opening ∧ ClientFirst.ofOctets opening = .ok first ∧
        s.mechanism.plus ∧ kind.isBound ∧ first.flag = kind.flag := by
  rw [mem_events_step_iff rfl]
  constructor
  · rintro ⟨opening, rfl, ⟨fresh, asked⟩ | ⟨e, -, asked⟩⟩
    · obtain ⟨first, kind', h, ⟨bound, ⟨⟩⟩ | ⟨-, ⟨⟩⟩⟩ := mem_questions_takeFirst_iff.mp asked
      exact ⟨fresh, opening, first, rfl, h.parsed, (permit_eq_ok_iff_of_isBound bound _ _).mp h.permitted,
        bound, BindingKind.flag_of_ofFlag h.known⟩
    · obtain ⟨-, -, -, ⟨⟩⟩ := mem_questions_takeFinal_iff.mp asked
  · rintro ⟨fresh, opening, first, rfl, parsed, plus, bound, flag⟩
    have permits : s.Permits opening first kind :=
      ⟨parsed, by rw [flag, BindingKind.ofFlag_flag], (permit_eq_ok_iff_of_isBound bound _ _).mpr plus⟩
    exact ⟨opening, rfl, .inl ⟨fresh, mem_questions_takeFirst_iff.mpr
      ⟨first, kind, permits, .inl ⟨bound, rfl⟩⟩⟩⟩

/-- Credentials are looked up by a first message whose binding is settled, of the user it names. -/
theorem lookedUp_mem_step_iff {operation : Operation} {username : String} :
    .lookedUp username ∈ (s.step operation).events ↔ s.state = .awaitingFirst ∧
      ∃ opening first kind, operation = .message opening ∧ s.Permits opening first kind ∧
        (kind.isBound → (s.binding kind).isSome) ∧ username = first.username := by
  rw [mem_events_step_iff rfl]
  constructor
  · rintro ⟨opening, rfl, ⟨fresh, asked⟩ | ⟨e, -, asked⟩⟩
    · obtain ⟨first, kind, h, ⟨-, ⟨⟩⟩ | ⟨supplied, ⟨⟩⟩⟩ := mem_questions_takeFirst_iff.mp asked
      exact ⟨fresh, opening, first, kind, rfl, h, supplied, rfl⟩
    · obtain ⟨-, -, -, ⟨⟩⟩ := mem_questions_takeFinal_iff.mp asked
  · rintro ⟨fresh, opening, first, kind, rfl, h, supplied, rfl⟩
    exact ⟨opening, rfl, .inl ⟨fresh, mem_questions_takeFirst_iff.mpr
      ⟨first, kind, h, .inr ⟨supplied, rfl⟩⟩⟩⟩

/-- The authorizer is asked by a final message that passes its checks, about the user and the identity
of the exchange. -/
theorem askedAuthorization_mem_step_iff {operation : Operation} {authcid authzid : String} :
    .askedAuthorization authcid authzid ∈ (s.step operation).events ↔
      ∃ e message final, s.state = .awaitingFinal e ∧ operation = .message message ∧
        ClientFinal.parse message = .ok final ∧ s.checkFinal e final = .ok () ∧
        authcid = e.username ∧ authzid = e.authzid := by
  rw [mem_events_step_iff rfl]
  constructor
  · rintro ⟨message, rfl, ⟨-, asked⟩ | ⟨e, waiting, asked⟩⟩
    · obtain ⟨_, _, -, ⟨-, ⟨⟩⟩ | ⟨-, ⟨⟩⟩⟩ := mem_questions_takeFirst_iff.mp asked
    · obtain ⟨final, read, checked, ⟨⟩⟩ := mem_questions_takeFinal_iff.mp asked
      exact ⟨e, message, final, waiting, rfl, read, checked, rfl, rfl⟩
  · rintro ⟨e, message, final, waiting, rfl, read, checked, rfl, rfl⟩
    exact ⟨message, rfl, .inr ⟨e, waiting, mem_questions_takeFinal_iff.mpr ⟨final, read, checked, rfl⟩⟩⟩

/-! ## Whole runs -/

/-- Whom a run makes the server ask, in order. -/
def questions (s : Server) (operations : List Operation) : List Event :=
  (s.run operations).flatMap Turn.questions

theorem questions_cons (s : Server) (operation : Operation) (operations : List Operation) :
    s.questions (operation :: operations) =
      (s.step operation).questions ++ (s.step operation).server.questions operations := rfl

/-- An exchange that has ended asks no one any more. -/
theorem questions_of_ended (ended : s.phase = .finished ∨ s.phase = .aborted)
    (operations : List Operation) : s.questions operations = [] := by
  induction operations generalizing s with
  | nil => rfl
  | cons operation operations ih =>
    have begun : s.state ≠ .awaitingFirst := by
      intro fresh
      simp [phase, fresh, State.phase] at ended
    have silent : (s.step operation).questions = [] := by
      rw [questions_step]
      cases state : s.state with
      | awaitingFirst => exact absurd state begun
      | awaitingFinal => simp [phase, state, State.phase] at ended
      | finished => rfl
      | aborted => rfl
    rw [questions_cons, silent, ih (ended_step begun operation), List.append_nil]

/-- Whatever comes behind a first message, the authorizer is asked once at most. -/
theorem questions_of_awaitingFinal (waiting : s.state = .awaitingFinal e)
    (operations : List Operation) :
    (s.questions operations).Sublist [.askedAuthorization e.username e.authzid] := by
  cases operations with
  | nil => exact List.nil_sublist _
  | cons operation operations =>
    have begun : s.state ≠ .awaitingFirst := by rw [waiting]; exact fun same => nomatch same
    rw [questions_cons, questions_of_ended (ended_step begun operation), List.append_nil,
      questions_step, waiting]
    cases operation with
    | message octets => exact questions_takeFinal_sublist
    | setPolicy => exact List.nil_sublist _
    | setAuthorizer => exact List.nil_sublist _
    | setBinding => exact List.nil_sublist _

/-- Behind a first message only the authorizer can still be asked, and only about the exchange that
the message began. -/
theorem questions_after_opening (fresh : s.state = .awaitingFirst) (opening : Bytes)
    (operations : List Operation) :
    (s.step (.message opening)).server.questions operations = [] ∨
      ∃ e, (s.takeFirst opening).result = .ok e ∧
        ((s.step (.message opening)).server.questions operations).Sublist
          [.askedAuthorization e.username e.authzid] := by
  have server : (s.step (.message opening)).server = (s.receive opening).server := rfl
  rw [server]
  rcases receive_cases s opening with
    ⟨e, -, taken, next, -⟩ | ⟨e, _, _, waiting, -⟩ | ⟨_, next, -⟩
  · exact .inr ⟨e, taken, questions_of_awaitingFinal (congrArg state next) operations⟩
  · rw [fresh] at waiting
    contradiction
  · apply Or.inl
    apply questions_of_ended
    rw [next, fresh]
    exact .inr rfl

/-- **A run that begins with a message which is read** asks about the kind of binding, the user and
the identity that this message names, and about nothing else, whatever comes behind it. -/
theorem questions_of_opening (fresh : s.state = .awaitingFirst)
    (parsed : ClientFirst.ofOctets opening = .ok first)
    (known : BindingKind.ofFlag first.flag = .ok kind) (operations : List Operation) :
    (s.questions (.message opening :: operations)).Sublist
      [.askedBinding kind, .lookedUp first.username,
        .askedAuthorization first.username (first.authzid.getD first.username)] := by
  have begins := questions_takeFirst_sublist (s := s) parsed known
  rw [questions_cons, questions_step, fresh]
  rcases questions_after_opening fresh opening operations with silent | ⟨e, taken, asked⟩
  · rw [silent]
    exact begins.append (List.nil_sublist [_])
  · obtain ⟨first', credentials, h⟩ := takeFirst_result_eq_ok_iff_begins.mp taken
    obtain rfl := Except.ok.inj (parsed.symm.trans h.parsed)
    rw [h.username, h.authzid] at asked
    exact begins.append asked

/-- A run that begins with a message which is not read asks no one about anything. -/
theorem questions_of_unread_opening (fresh : s.state = .awaitingFirst) {error : Error}
    (unread : ClientFirst.ofOctets opening = .error error) (operations : List Operation) :
    s.questions (.message opening :: operations) = [] := by
  have failed : s.takeFirst opening = Audit.fail error := by
    rw [takeFirst, unread, Audit.of_error_bind]
  rw [questions_cons, questions_step, fresh]
  rcases questions_after_opening fresh opening operations with rest | ⟨e, taken, -⟩
  · rw [rest, List.append_nil]
    dsimp only
    rw [failed]
    rfl
  · rw [failed] at taken
    contradiction

/-- A run before its first message has all its questions still to ask, each of them once at most and
in this order. -/
theorem questions_of_awaitingFirst (fresh : s.state = .awaitingFirst)
    (operations : List Operation) : ∃ kind username authcid authzid,
      (s.questions operations).Sublist
        [.askedBinding kind, .lookedUp username, .askedAuthorization authcid authzid] := by
  induction operations generalizing s with
  | nil => exact ⟨.unsupported, "", "", "", List.nil_sublist _⟩
  | cons operation operations ih =>
    rw [questions_cons, questions_step, fresh]
    cases kind : operation.reconfigures with
    | true =>
      -- a new setting asks no one, and the first message is awaited as before
      have still := state_step_eq_awaitingFirst_iff.mpr ⟨fresh, kind⟩
      cases operation with
      | message => contradiction
      | setPolicy => exact ih still
      | setAuthorizer => exact ih still
      | setBinding => exact ih still
    | false =>
      obtain ⟨octets, rfl⟩ := exists_message_of_reconfigures_eq_false kind
      obtain ⟨kind, username, first⟩ : ∃ kind username, (s.takeFirst octets).questions.Sublist
          [.askedBinding kind, .lookedUp username] := exists_questions_takeFirst_sublist
      rcases questions_after_opening fresh octets operations with silent | ⟨e, -, rest⟩
      · rw [silent]
        exact ⟨kind, username, "", "", first.append (List.nil_sublist [_])⟩
      · exact ⟨kind, username, e.username, e.authzid, first.append rest⟩

/-- **Whom a server asks, and when.** Over any run of a fresh server the transport, the store of
credentials and the authorizer are asked once at most, in this order. In the operation after any
others, the transport is asked for data exactly of the bound kind that the first message names, by a
mechanism with channel binding; credentials are looked up exactly of the user whom the first message
names, once its binding is known, permitted and, where it needs data, supplied; and the authorizer is
asked exactly where the final message carries the binding value, the nonce and the proof of the
exchange, about the user and the identity of the first message. -/
theorem collaborators (mechanism : Mechanism) (credentials : String → Option Credentials)
    (nonce : String) (operations : List Operation) :
    let fresh := start mechanism credentials nonce
    let s := fresh.after operations
    (∃ kind username authcid authzid, (fresh.questions operations).Sublist
      [.askedBinding kind, .lookedUp username, .askedAuthorization authcid authzid]) ∧
    ∀ operation,
      (∀ kind, .askedBinding kind ∈ (s.step operation).events ↔
        Silent operations ∧ ∃ opening first, operation = .message opening ∧
          ClientFirst.ofOctets opening = .ok first ∧ mechanism.plus ∧ kind.isBound ∧
          first.flag = kind.flag) ∧
      (∀ username, .lookedUp username ∈ (s.step operation).events ↔
        Silent operations ∧ ∃ opening text first kind, operation = .message opening ∧
          utf8 text = opening ∧ ClientFirst.parse text = .ok first ∧
          BindingKind.ofFlag first.flag = .ok kind ∧
          mechanism.permit kind s.policy.advertisesBinding = .ok () ∧
          (kind.isBound → (s.binding kind).isSome) ∧ username = first.username) ∧
      (∀ authcid authzid, .askedAuthorization authcid authzid ∈ (s.step operation).events ↔
        ∃ setup opening first e message final, operations = setup ++ [.message opening] ∧
          Silent setup ∧ ClientFirst.ofOctets opening = .ok first ∧ s.state = .awaitingFinal e ∧
          operation = .message message ∧ ClientFinal.parse message = .ok final ∧
          Base64.decode? final.binding = some e.bindingValue ∧ final.nonce = utf8 e.nonce ∧
          Base64.decode? final.proof = some (mechanism.algorithm.clientProof e.clientKey e.storedKey
            (e.transcript final.withoutProof)) ∧
          authcid = first.username ∧ authzid = first.authzid.getD first.username) := by
  intro fresh s
  have awaits : s.state = .awaitingFirst ↔ Silent operations := state_after_eq_awaitingFirst_iff rfl
  have mechanismEq : s.mechanism = mechanism := (fixed_after fresh operations).1
  refine ⟨questions_of_awaitingFirst rfl operations, ?_⟩
  intro operation
  refine ⟨?_, ?_, ?_⟩
  · intro kind
    rw [askedBinding_mem_step_iff, awaits, mechanismEq]
  · intro username
    rw [lookedUp_mem_step_iff, awaits]
    refine and_congr_right ?_
    intro silent
    constructor
    · rintro ⟨opening, first, kind, rfl, h, supplied, named⟩
      obtain ⟨text, written, parsed⟩ := ClientFirst.ofOctets_eq_ok_iff_exists_text.mp h.parsed
      exact ⟨opening, text, first, kind, rfl, written, parsed, h.known, mechanismEq ▸ h.permitted,
        supplied, named⟩
    · rintro ⟨opening, text, first, kind, rfl, written, parsed, known, permitted, supplied, named⟩
      have octets := ClientFirst.ofOctets_eq_ok_iff_exists_text.mpr ⟨text, written, parsed⟩
      exact ⟨opening, first, kind, rfl, ⟨octets, known, mechanismEq ▸ permitted⟩, supplied, named⟩
  · intro authcid authzid
    rw [askedAuthorization_mem_step_iff]
    simp only [checkFinal_eq_ok_iff, mechanismEq]
    -- the exchange under way was begun by the last operation, and knows what that said
    constructor
    · rintro ⟨e, message, final, waiting, rfl, read, ⟨bound, nonce, proved⟩, rfl, rfl⟩
      obtain ⟨setup, opening, first, found, same, silent, h⟩ :=
        (state_after_eq_awaitingFinal_iff_begins rfl).mp waiting
      exact ⟨setup, opening, first, e, message, final, same, silent, h.parsed, waiting, rfl, read,
        bound, nonce, proved, h.username, h.authzid⟩
    · rintro ⟨setup, opening, first, e, message, final, same, -, parsed, waiting, rfl, read, bound,
        nonce, proved, rfl, rfl⟩
      obtain ⟨setup', opening', first', found, same', -, h⟩ :=
        (state_after_eq_awaitingFinal_iff_begins rfl).mp waiting
      obtain ⟨-, ⟨⟩⟩ := List.append_inj' (same.symm.trans same') rfl
      obtain rfl := Except.ok.inj (parsed.symm.trans h.parsed)
      exact ⟨e, message, final, waiting, rfl, read, ⟨bound, nonce, proved⟩, h.username.symm,
        h.authzid.symm⟩

end Server

end Scram
