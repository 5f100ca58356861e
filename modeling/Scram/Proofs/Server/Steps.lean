import Scram.Proofs.Grammar.ClientFinal
import Scram.Server.Receive

/-!
# What a server's steps come to

One law for each step of a server, saying exactly when it passes and what it passes on. The later
modules reason from these laws and never open a step again; `receive_cases` is all that a message
can do to a server, in whatever phase it arrives.
-/

namespace Scram

/-! ## Channel binding -/

/-- The octets that a transport puts behind the header of a first message with this flag: its data,
where the flag requires one of the two bindings there are, and nothing otherwise. -/
def BindingSource.Adds (source : BindingSource) (flag : BindingFlag) (octets : Bytes) : Prop :=
  if flag = .required "tls-unique" then source .tlsUnique = some octets
  else if flag = .required "tls-server-end-point" then source .tlsServerEndPoint = some octets
  else octets = []

/-- Data is resolved of a bound kind, where the transport has some; the other kinds need none. -/
theorem BindingSource.resolve_result_eq_ok_iff {source : BindingSource} {kind : BindingKind}
    {data : Option Bytes} :
    (source.resolve kind).result = .ok data ↔
      if kind.isBound then ∃ octets, source kind = some octets ∧ data = some octets
      else data = none := by
  unfold BindingSource.resolve
  cases kind.isBound with
  | false => simp [eq_comm]
  | true => cases source kind <;> simp [Except.map, eq_comm]

/-- A kind that is told from a flag has this flag for its own. -/
theorem BindingKind.flag_of_ofFlag {flag : BindingFlag} {kind : BindingKind}
    (known : ofFlag flag = .ok kind) : flag = kind.flag := by
  cases flag with
  | unsupported =>
    cases known
    rfl
  | unused =>
    cases known
    rfl
  | required name =>
    by_cases unique : name = "tls-unique"
    · subst unique
      cases known
      rfl
    · by_cases endPoint : name = "tls-server-end-point"
      · subst endPoint
        cases known
        rfl
      · simp [ofFlag, unique, endPoint] at known

/-- Two kinds are not announced alike. -/
theorem BindingKind.flag_injective {kind kind' : BindingKind} (same : kind.flag = kind'.flag) :
    kind = kind' := by
  have known := ofFlag_flag kind
  rw [same, ofFlag_flag] at known
  exact (Except.ok.inj known).symm

/-- The two kinds that bind to something of the transport. -/
theorem BindingKind.isBound_iff {kind : BindingKind} :
    kind.isBound ↔ kind = .tlsUnique ∨ kind = .tlsServerEndPoint := by
  cases kind <;> simp [isBound]

/-- A bound kind is announced by its name. -/
theorem BindingKind.flag_of_isBound {kind : BindingKind} (bound : kind.isBound) :
    kind.flag = .required kind.name := by
  cases kind with
  | unsupported => contradiction
  | unused => contradiction
  | tlsUnique => rfl
  | tlsServerEndPoint => rfl

/-- The binding value of an exchange is the header and what the transport adds to it. -/
theorem exists_adds_of_resolve {source : BindingSource} {flag : BindingFlag} {kind : BindingKind}
    {data : Option Bytes} (header : String) (known : BindingKind.ofFlag flag = .ok kind)
    (resolved : (source.resolve kind).result = .ok data) :
    ∃ octets, source.Adds flag octets ∧ bindingValue header kind data = utf8 header ++ octets := by
  obtain rfl := BindingKind.flag_of_ofFlag known
  rw [BindingSource.resolve_result_eq_ok_iff] at resolved
  cases kind with
  | unsupported => exact ⟨[], by simp [BindingSource.Adds, BindingKind.flag], rfl⟩
  | unused => exact ⟨[], by simp [BindingSource.Adds, BindingKind.flag], rfl⟩
  | tlsUnique =>
    obtain ⟨octets, found, rfl⟩ := resolved
    exact ⟨octets, by simpa [BindingSource.Adds, BindingKind.flag] using found, rfl⟩
  | tlsServerEndPoint =>
    obtain ⟨octets, found, rfl⟩ := resolved
    exact ⟨octets, by simpa [BindingSource.Adds, BindingKind.flag] using found, rfl⟩

/-- What a mechanism permits: with channel binding the bound kinds; without it a client that has no
channel binding, and one that takes the server to have none where that is so. -/
theorem Mechanism.permit_eq_ok_iff {m : Mechanism} {kind : BindingKind} {advertises : Bool} :
    m.permit kind advertises = .ok () ↔
      if m.plus then kind.isBound = true
      else kind = .unsupported ∨ kind = .unused ∧ advertises = false := by
  obtain ⟨algorithm, plus⟩ := m
  cases plus with
  | true => cases kind <;> simp [permit, BindingKind.isBound]
  | false => cases kind <;> simp [permit]

/-- The check passes where the declared value decodes to the expected one. -/
theorem checkBinding_eq_ok_iff {declared expected : Bytes} :
    checkBinding declared expected = .ok () ↔ Base64.decode? declared = some expected :=
  ensure_eq_ok_iff

namespace Server

variable {s : Server} {e : Exchange} {message : Bytes}

/-! ## The first message -/

/-- What a look-up comes to: a user without a password is as unknown as one who is not there, and
only then do the iterations count. -/
theorem lookUp_result_eq (s : Server) (username : String) :
    (s.lookUp username).result =
      match s.credentials username with
      | none => .error .unknownUser
      | some stored =>
        if stored.saltedPassword = [] then .error .unknownUser
        else if stored.iterations.toNat < s.policy.minIterations.toNat then
          .error (.fewIterations stored.iterations.toNat s.policy.minIterations.toNat)
        else .ok stored := by
  unfold lookUp
  cases s.credentials username with
  | none => rfl
  | some stored =>
    dsimp only [Audit.emit_bind]
    split
    · rfl
    · split <;> rfl

/-- A look-up passes on what is stored of the user, where there is a password and its iterations are
enough for the policy. -/
theorem lookUp_result_eq_ok_iff {username : String} {credentials : Credentials} :
    (s.lookUp username).result = .ok credentials ↔
      s.credentials username = some credentials ∧ credentials.saltedPassword ≠ [] ∧
      s.policy.minIterations.toNat ≤ credentials.iterations.toNat := by
  rw [lookUp_result_eq]
  cases s.credentials username with
  | none => simp
  | some stored =>
    dsimp only
    split
    · next empty =>
      simp only [reduceCtorEq, Option.some.injEq, false_iff, not_and]
      rintro rfl nonempty
      exact absurd empty nonempty
    · next nonempty =>
      split
      · next few =>
        simp only [reduceCtorEq, Option.some.injEq, false_iff, not_and]
        rintro rfl -
        exact Nat.not_le.mpr few
      · next enough =>
        simp only [Except.ok.injEq, Option.some.injEq]
        constructor
        · rintro rfl
          exact ⟨rfl, nonempty, Nat.not_lt.mp enough⟩
        · intro given
          obtain ⟨same, -⟩ := given
          exact same

/-- A user is unknown where there is none, and where the password is empty. -/
theorem lookUp_result_eq_unknownUser_iff {username : String} :
    (s.lookUp username).result = .error .unknownUser ↔
      ∀ stored ∈ s.credentials username, stored.saltedPassword = [] := by
  rw [lookUp_result_eq]
  cases s.credentials username with
  | none => simp
  | some stored =>
    simp only [Option.mem_some_iff, forall_eq']
    split
    · next empty => simp [empty]
    · next nonempty => split <;> simp [nonempty]

/-- A look-up fails where there is nothing that can be used. -/
theorem exists_lookUp_error_iff {username : String} :
    (∃ error, (s.lookUp username).result = .error error) ↔
      ∀ stored ∈ s.credentials username, stored.saltedPassword = [] ∨
        stored.iterations.toNat < s.policy.minIterations.toNat := by
  rw [lookUp_result_eq]
  cases s.credentials username with
  | none => simp
  | some stored =>
    simp only [Option.mem_some_iff, forall_eq']
    split
    · next empty => simp [empty]
    · next nonempty => split <;> simp_all

/-- Whatever is wrong with stored credentials, the client is told one thing. -/
theorem refusal_of_lookUp_error {username : String} {error : Error}
    (failed : (s.lookUp username).result = .error error) : error.refusal = .otherError := by
  rw [lookUp_result_eq] at failed
  split at failed
  · cases failed
    rfl
  · split at failed
    · cases failed
      rfl
    · split at failed
      · cases failed
        rfl
      · contradiction

/-- A first message is taken where it is in the grammar, its binding is known, permitted and
supplied, and its user has credentials that are good enough. -/
theorem takeFirst_result_eq_ok_iff :
    (s.takeFirst message).result = .ok e ↔ ∃ first kind data credentials,
      ClientFirst.ofOctets message = .ok first ∧ BindingKind.ofFlag first.flag = .ok kind ∧
      s.mechanism.permit kind s.policy.advertisesBinding = .ok () ∧
      (s.binding.resolve kind).result = .ok data ∧
      (s.lookUp first.username).result = .ok credentials ∧
      e = s.exchange first kind data credentials := by
  simp only [takeFirst, Audit.bind_result_eq_ok_iff, Audit.of_result, Audit.note_bind,
    Audit.pure_result, Except.ok.injEq]
  constructor
  · intro given
    obtain ⟨first, parsed, kind, known, ⟨⟩, permitted, data, resolved, credentials, found, rfl⟩ := given
    exact ⟨first, kind, data, credentials, parsed, known, permitted, resolved, found, rfl⟩
  · intro given
    obtain ⟨first, kind, data, credentials, parsed, known, permitted, resolved, found, rfl⟩ := given
    exact ⟨first, parsed, kind, known, (), permitted, data, resolved, credentials, found, rfl⟩

/-- A first message that begins an exchange: it is in the grammar, its flag is that of a kind which
the mechanism permits under the policy and for which the transport has what it needs, its user has
credentials that are good enough, and the exchange is made of these. -/
structure Begins (s : Server) (opening : Bytes) (first : ClientFirst) (credentials : Credentials)
    (e : Exchange) : Prop where
  parsed : ClientFirst.ofOctets opening = .ok first
  flag : first.flag = e.kind.flag
  permitted : s.mechanism.permit e.kind s.policy.advertisesBinding = .ok ()
  supplied : e.kind.isBound → (s.binding e.kind).isSome
  bindingData : e.bindingData = if e.kind.isBound then s.binding e.kind else none
  found : s.credentials first.username = some credentials
  saltedPassword_ne_nil : credentials.saltedPassword ≠ []
  iterations : s.policy.minIterations.toNat ≤ credentials.iterations.toNat
  exchange : e = s.exchange first e.kind e.bindingData credentials

namespace Begins

variable {first : ClientFirst} {credentials : Credentials} (h : s.Begins message first credentials e)

include h

theorem wellFormed : first.WellFormed := (ClientFirst.ofOctets_eq_ok_iff.mp h.parsed).1

theorem text : message = utf8 first.header ++ utf8 first.bare :=
  (ClientFirst.ofOctets_eq_ok_iff.mp h.parsed).2

theorem header : e.header = first.header := by
  rw [h.exchange]
  rfl

/-- The header is what its flag and its identity are written as. -/
theorem header_eq : e.header = ClientFirst.headerText e.kind.flag first.authzid := by
  rw [h.header, h.wellFormed.header_eq, h.flag]

theorem username : e.username = first.username := by
  rw [h.exchange]
  rfl

/-- The identity asked for is the user's own where the message names none. -/
theorem authzid : e.authzid = first.authzid.getD first.username := by
  rw [h.exchange]
  rfl

/-- The nonce of the exchange is the client's with the server's behind it. -/
theorem nonce : e.nonce = first.nonce ++ s.nonce := by
  rw [h.exchange]
  rfl

end Begins

/-- Exchanges are begun by the messages that begin them, and by no others. -/
theorem takeFirst_result_eq_ok_iff_begins :
    (s.takeFirst message).result = .ok e ↔
      ∃ first credentials, s.Begins message first credentials e := by
  rw [takeFirst_result_eq_ok_iff]
  constructor
  · intro given
    obtain ⟨first, kind, data, credentials, parsed, known, permitted, resolved, found, exchange⟩ :=
      given
    obtain ⟨found, nonempty, enough⟩ := lookUp_result_eq_ok_iff.mp found
    rw [BindingSource.resolve_result_eq_ok_iff] at resolved
    -- the exchange keeps the kind and the data that were resolved
    obtain ⟨rfl, rfl⟩ : e.kind = kind ∧ e.bindingData = data := by
      rw [exchange]
      exact ⟨rfl, rfl⟩
    refine ⟨first, credentials, parsed, BindingKind.flag_of_ofFlag known, permitted, ?_, ?_, found,
      nonempty, enough, exchange⟩
    · intro bound
      rw [if_pos bound] at resolved
      obtain ⟨octets, supplied, -⟩ := resolved
      exact Option.isSome_of_eq_some supplied
    · by_cases bound : e.kind.isBound
      · rw [if_pos bound] at resolved ⊢
        obtain ⟨octets, supplied, data⟩ := resolved
        rw [data, supplied]
      · rwa [if_neg bound] at resolved ⊢
  · intro given
    obtain ⟨first, credentials, h⟩ := given
    refine ⟨first, e.kind, e.bindingData, credentials, h.parsed, ?_, h.permitted, ?_, ?_, h.exchange⟩
    · rw [h.flag, BindingKind.ofFlag_flag]
    · rw [BindingSource.resolve_result_eq_ok_iff, h.bindingData]
      split
      · next bound =>
        obtain ⟨octets, supplied⟩ := Option.isSome_iff_exists.mp (h.supplied bound)
        exact ⟨octets, supplied, supplied⟩
      · rfl
    · exact lookUp_result_eq_ok_iff.mpr ⟨h.found, h.saltedPassword_ne_nil, h.iterations⟩

/-! ## The final message -/

/-- The three checks pass where the binding, the nonce and the proof are those of the exchange. -/
theorem checkFinal_eq_ok_iff {final : ClientFinal} :
    s.checkFinal e final = .ok () ↔
      Base64.decode? final.binding = some e.bindingValue ∧ final.nonce = utf8 e.nonce ∧
      Base64.decode? final.proof = some (s.mechanism.algorithm.clientProof e.clientKey e.storedKey
        (e.transcript final.withoutProof)) := by
  simp only [checkFinal, bind_eq_ok_iff, ensure_eq_ok_iff, exists_const]
  constructor
  · intro given
    obtain ⟨⟨⟩, bound, rest⟩ := given
    exact ⟨checkBinding_eq_ok_iff.mp bound, rest⟩
  · intro given
    obtain ⟨bound, rest⟩ := given
    exact ⟨(), checkBinding_eq_ok_iff.mpr bound, rest⟩

/-- What a message with a wrong part is refused with: the first of the three checks that fails. -/
theorem checkFinal_eq (s : Server) (e : Exchange) (final : ClientFinal) :
    s.checkFinal e final =
      if Base64.decode? final.binding = some e.bindingValue then
        if final.nonce = utf8 e.nonce then
          if Base64.decode? final.proof = some (s.mechanism.algorithm.clientProof e.clientKey
            e.storedKey (e.transcript final.withoutProof)) then .ok ()
          else .error .wrongProof
        else .error .nonceMismatch
      else .error .bindingMismatch := by
  unfold checkFinal checkBinding ensure
  by_cases bound : Base64.decode? final.binding = some e.bindingValue
  · by_cases nonce : final.nonce = utf8 e.nonce
    · simp only [bound, nonce, if_true]
      rfl
    · simp only [bound, nonce, if_true, if_false]
      rfl
  · simp only [bound, if_false]
    rfl

/-- What a failed check says depends on no key: the first two checks decide it. -/
theorem checkFinal_eq_of_ne_ok {final : ClientFinal} (failed : s.checkFinal e final ≠ .ok ()) :
    s.checkFinal e final =
      if Base64.decode? final.binding = some e.bindingValue then
        if final.nonce = utf8 e.nonce then .error .wrongProof else .error .nonceMismatch
      else .error .bindingMismatch := by
  rw [checkFinal_eq] at failed ⊢
  split at failed
  · next bound =>
    rw [if_pos bound, if_pos bound]
    split at failed
    · next nonce =>
      rw [if_pos nonce, if_pos nonce]
      apply if_neg
      intro proved
      exact failed (if_pos proved)
    · next differ => rw [if_neg differ, if_neg differ]
  · next differ => rw [if_neg differ, if_neg differ]

/-- A failed check is reported as a mismatch of the binding exactly where the binding is wrong. -/
theorem checkFinal_error_cases {final : ClientFinal} {error : Error}
    (failed : s.checkFinal e final = .error error) :
    Base64.decode? final.binding ≠ some e.bindingValue ∧ error = .bindingMismatch ∨
      Base64.decode? final.binding = some e.bindingValue ∧
        (error = .nonceMismatch ∨ error = .wrongProof) := by
  rw [checkFinal_eq] at failed
  split at failed
  · next bound =>
    refine .inr ⟨bound, ?_⟩
    split at failed
    · split at failed
      · contradiction
      · exact .inr (Except.error.inj failed).symm
    · exact .inl (Except.error.inj failed).symm
  · next differ => exact .inl ⟨differ, (Except.error.inj failed).symm⟩

/-- A user is authorized as whom the authorizer names. -/
theorem askAuthorization_result_eq_ok_iff {identity : String} :
    (s.askAuthorization e).result = .ok identity ↔
      s.authorize e.username e.authzid = some identity := by
  unfold askAuthorization
  cases s.authorize e.username e.authzid <;> simp [Except.map]

/-- Nothing that is a first message is missed by not reading what begins as a final one does. -/
theorem isFirst_iff : isFirst message ↔ ∃ first, ClientFirst.ofOctets message = .ok first := by
  have readable : (ClientFirst.ofOctets message).isOk ↔
      ∃ first, ClientFirst.ofOctets message = .ok first := by
    cases ClientFirst.ofOctets message <;> simp [Except.isOk, Except.toBool]
  rw [isFirst, decide_eq_true_iff, readable, and_iff_right_iff_imp]
  intro given
  obtain ⟨first, read⟩ := given
  rw [Cut.after?_eq_none_iff]
  rintro rest rfl
  exact ClientFinal.ofOctets_mark_append_ne_ok rest first read

/-- A final message is no first one, so it is never taken to be out of sequence. -/
theorem not_isFirst_of_parse {final : ClientFinal} (read : ClientFinal.parse message = .ok final) :
    ¬isFirst message := by
  rw [isFirst_iff]
  intro given
  obtain ⟨first, found⟩ := given
  exact ClientFinal.ofOctets_ne_ok_of_parse read first found

/-- A final message in the grammar goes straight to the checks: it is no first message. -/
theorem takeFinal_of_parse {final : ClientFinal} (read : ClientFinal.parse message = .ok final) :
    s.takeFinal e message = (do
      Audit.of (s.checkFinal e final)
      let identity ← s.askAuthorization e
      return (identity, ServerFinal.signatureText (s.mechanism.algorithm.hmacParts
        (s.mechanism.algorithm.serverKey e.saltedPassword) (e.transcript final.withoutProof)))) := by
  have notFirst : ensure (¬isFirst message) (.outOfSequence .awaitingFinal) = .ok () :=
    ensure_eq_ok_iff.mpr (not_isFirst_of_parse read)
  rw [takeFinal, notFirst, read, Audit.of_ok_bind, Audit.of_ok_bind]

/-- What is outside the grammar of final messages is refused before anything is checked: a first
message as out of sequence, and any other for what the reader finds wrong with it. -/
theorem takeFinal_of_unread {error : Error} (unread : ClientFinal.parse message = .error error) :
    s.takeFinal e message =
      Audit.fail (if isFirst message then .outOfSequence .awaitingFinal else error) := by
  rw [takeFinal, unread, ensure]
  cases isFirst message <;> rfl

/-- What a final message in the grammar can be refused with. -/
theorem takeFinal_error_cases {final : ClientFinal} {error : Error}
    (read : ClientFinal.parse message = .ok final)
    (refused : (s.takeFinal e message).result = .error error) :
    s.checkFinal e final = .error error ∨
      s.checkFinal e final = .ok () ∧ s.authorize e.username e.authzid = none ∧
        error = .notAuthorized e.username e.authzid := by
  rw [takeFinal_of_parse read] at refused
  cases checked : s.checkFinal e final with
  | error found =>
    rw [checked, Audit.of_error_bind, Audit.fail_result] at refused
    exact .inl (congrArg _ (Except.error.inj refused))
  | ok =>
    rw [checked, Audit.of_ok_bind, askAuthorization, Audit.emit_bind] at refused
    cases authorized : s.authorize e.username e.authzid with
    | none =>
      rw [authorized] at refused
      exact .inr ⟨rfl, rfl, (Except.error.inj refused).symm⟩
    | some identity =>
      rw [authorized] at refused
      contradiction

/-- What a message outside the grammar of final ones is refused with. -/
theorem takeFinal_error_of_outside {error : Error} (outside : ¬ClientFinal.InGrammar message)
    (refused : (s.takeFinal e message).result = .error error) :
    error = .outOfSequence .awaitingFinal ∨ error.IsMalformed := by
  cases read : ClientFinal.parse message with
  | ok final => exact absurd (ClientFinal.exists_parse_iff.mp ⟨final, read⟩) outside
  | error defect =>
    rw [takeFinal_of_unread read, Audit.fail_result, Except.error.injEq] at refused
    rw [← refused]
    split
    · exact .inl rfl
    · exact .inr (ClientFinal.parse_failsOnlyAs_aboutField message _ read).isMalformed

/-- A final message is taken where it is in the grammar, passes the three checks, and its user may
act as asked. That it is no first message need not be said: no message is both. -/
theorem takeFinal_result_eq_ok_iff {identity reply : String} :
    (s.takeFinal e message).result = .ok (identity, reply) ↔ ∃ final,
      ClientFinal.parse message = .ok final ∧ s.checkFinal e final = .ok () ∧
      s.authorize e.username e.authzid = some identity ∧
      reply = ServerFinal.signatureText (s.mechanism.algorithm.hmacParts
        (s.mechanism.algorithm.serverKey e.saltedPassword) (e.transcript final.withoutProof)) := by
  simp only [takeFinal, Audit.bind_result_eq_ok_iff, Audit.of_result, ensure_eq_ok_iff,
    askAuthorization_result_eq_ok_iff, Audit.pure_result, Except.ok.injEq, Prod.mk.injEq,
    exists_const]
  constructor
  · intro given
    obtain ⟨-, final, parsed, ⟨⟩, checked, _, authorized, rfl, rfl⟩ := given
    exact ⟨final, parsed, checked, authorized, rfl⟩
  · intro given
    obtain ⟨final, parsed, checked, authorized, rfl⟩ := given
    exact ⟨not_isFirst_of_parse parsed, final, parsed, (), checked, identity, authorized, rfl, rfl⟩

/-! ## Any message -/

/-- A message whose step passes moves the server to the next state and is answered. -/
theorem receive_of_ok {state : State} {reply : String} (taken : (s.take message).result = .ok (state, reply)) :
    (s.receive message).server = { s with state } ∧ (s.receive message).result = .ok reply := by
  simp only [receive, taken, and_self]

/-- A message whose step fails is answered with its error, and leaves the state that refusing
leaves. -/
theorem receive_of_error {error : Error} (taken : (s.take message).result = .error error) :
    (s.receive message).server = { s with state := s.state.refused } ∧
      (s.receive message).result = .error error := by
  simp only [receive, taken, and_self]

/-- Where the first message is awaited, the step is that of the first message. -/
theorem take_first_result (fresh : s.state = .awaitingFirst) :
    (s.take message).result = (s.takeFirst message).result.map fun e => (.awaitingFinal e, e.serverFirst) := by
  unfold take
  rw [fresh]
  generalize s.takeFirst message = step
  obtain ⟨events, result⟩ := step
  cases result <;> rfl

/-- Where the final message is awaited, the step is that of the final message. -/
theorem take_final_result (waiting : s.state = .awaitingFinal e) :
    (s.take message).result =
      (s.takeFinal e message).result.map fun taken => (.finished taken.1, taken.2) := by
  unfold take
  rw [waiting]
  dsimp only
  generalize s.takeFinal e message = step
  obtain ⟨events, result⟩ := step
  cases result <;> rfl

/-- A finished exchange takes no message: each is out of sequence. -/
theorem take_finished_result {identity : String} (finished : s.state = .finished identity) :
    (s.take message).result = .error (.outOfSequence .finished) := by
  unfold take
  rw [finished]
  rfl

/-- An aborted exchange takes no message either. -/
theorem take_aborted_result (aborted : s.state = .aborted) :
    (s.take message).result = .error (.outOfSequence .aborted) := by
  unfold take
  rw [aborted]
  rfl

/-- A first message is answered with the reply of the exchange that it begins, or refused for what
its step fails with. -/
theorem receive_first_result (fresh : s.state = .awaitingFirst) :
    (s.receive message).result = (s.takeFirst message).result.map Exchange.serverFirst := by
  have law : (s.take message).result = _ := take_first_result fresh
  unfold receive
  cases taken : (s.takeFirst message).result with
  | error => simp only [law, taken, Except.map]
  | ok => simp only [law, taken, Except.map]

/-- A final message is answered with what its step replies, or refused for what it fails with. -/
theorem receive_final_result (waiting : s.state = .awaitingFinal e) :
    (s.receive message).result = (s.takeFinal e message).result.map Prod.snd := by
  have law : (s.take message).result = _ := take_final_result waiting
  unfold receive
  cases taken : (s.takeFinal e message).result with
  | error => simp only [law, taken, Except.map]
  | ok => simp only [law, taken, Except.map]

/-- A message is refused for what its step fails with. -/
theorem receive_first_eq_error_iff {error : Error} (fresh : s.state = .awaitingFirst) :
    (s.receive message).result = .error error ↔ (s.takeFirst message).result = .error error := by
  rw [receive_first_result fresh, map_eq_error_iff]

theorem receive_final_eq_error_iff {error : Error} (waiting : s.state = .awaitingFinal e) :
    (s.receive message).result = .error error ↔ (s.takeFinal e message).result = .error error := by
  rw [receive_final_result waiting, map_eq_error_iff]

/-- A final message in the grammar is refused for what its checks find. -/
theorem receive_of_checkFinal_error {final : ClientFinal} {error : Error}
    (waiting : s.state = .awaitingFinal e) (read : ClientFinal.parse message = .ok final)
    (failed : s.checkFinal e final = .error error) : (s.receive message).result = .error error := by
  rw [receive_final_eq_error_iff waiting, takeFinal_of_parse read, failed]
  rfl

/-- What a final message in the grammar can be refused with, for whichever reason. -/
theorem receive_final_error_cases {final : ClientFinal} {error : Error}
    (waiting : s.state = .awaitingFinal e) (read : ClientFinal.parse message = .ok final)
    (refused : (s.receive message).result = .error error) :
    s.checkFinal e final = .error error ∨
      s.checkFinal e final = .ok () ∧ s.authorize e.username e.authzid = none ∧
        error = .notAuthorized e.username e.authzid :=
  takeFinal_error_cases read ((receive_final_eq_error_iff waiting).mp refused)

/-- A final message in the grammar is refused in one way, as far as the client is told. -/
theorem refusal_of_receive_final_error {final : ClientFinal} {error : Error}
    (waiting : s.state = .awaitingFinal e) (read : ClientFinal.parse message = .ok final)
    (refused : (s.receive message).result = .error error) : error.refusal = .otherError := by
  rcases receive_final_error_cases waiting read refused with failed | ⟨-, -, rfl⟩
  · rcases checkFinal_error_cases failed with ⟨-, rfl⟩ | ⟨-, rfl | rfl⟩ <;> rfl
  · rfl

/-- A final message in the grammar is refused for its binding exactly if the binding is not that of
the exchange, whatever else is wrong with it. -/
theorem receive_eq_bindingMismatch_iff {final : ClientFinal} (waiting : s.state = .awaitingFinal e)
    (read : ClientFinal.parse message = .ok final) :
    (s.receive message).result = .error .bindingMismatch ↔
      Base64.decode? final.binding ≠ some e.bindingValue := by
  constructor
  · intro refused bound
    rcases receive_final_error_cases waiting read refused with failed | ⟨-, -, other⟩
    · rcases checkFinal_error_cases failed with ⟨differ, -⟩ | ⟨-, other | other⟩
      · exact differ bound
      · cases other
      · cases other
    · cases other
  · intro differ
    exact receive_of_checkFinal_error waiting read (by rw [checkFinal_eq, if_neg differ])

/-- **All that a message can do**: begin the exchange, finish it, or be refused. -/
theorem receive_cases (s : Server) (message : Bytes) :
    (∃ e, s.state = .awaitingFirst ∧ (s.takeFirst message).result = .ok e ∧
      (s.receive message).server = { s with state := .awaitingFinal e } ∧
      (s.receive message).result = .ok e.serverFirst) ∨
    (∃ e identity reply, s.state = .awaitingFinal e ∧
      (s.takeFinal e message).result = .ok (identity, reply) ∧
      (s.receive message).server = { s with state := .finished identity } ∧
      (s.receive message).result = .ok reply) ∨
    (∃ error, (s.receive message).server = { s with state := s.state.refused } ∧
      (s.receive message).result = .error error) := by
  -- only in the two phases that await a message does its step decide
  cases phase : s.state with
  | awaitingFirst =>
    have law : (s.take message).result = _ := take_first_result phase
    cases taken : (s.takeFirst message).result with
    | error error =>
      rw [taken] at law
      exact .inr (.inr ⟨error, phase ▸ receive_of_error law⟩)
    | ok e =>
      rw [taken] at law
      exact .inl ⟨e, rfl, rfl, receive_of_ok law⟩
  | awaitingFinal e =>
    have law : (s.take message).result = _ := take_final_result phase
    cases taken : (s.takeFinal e message).result with
    | error error =>
      rw [taken] at law
      exact .inr (.inr ⟨error, phase ▸ receive_of_error law⟩)
    | ok pair =>
      rw [taken] at law
      exact .inr (.inl ⟨e, pair.1, pair.2, rfl, taken, receive_of_ok law⟩)
  | finished identity =>
    exact .inr (.inr ⟨_, phase ▸ receive_of_error (take_finished_result phase)⟩)
  | aborted =>
    exact .inr (.inr ⟨_, phase ▸ receive_of_error (take_aborted_result phase)⟩)

/-- A first message that is taken is answered, and the final one is awaited then. -/
theorem receive_first_of_ok (fresh : s.state = .awaitingFirst)
    (taken : (s.takeFirst message).result = .ok e) :
    (s.receive message).server = { s with state := .awaitingFinal e } ∧
      (s.receive message).result = .ok e.serverFirst :=
  receive_of_ok (by rw [take_first_result fresh, taken]; rfl)

/-- A final message that is taken is answered, and the exchange is finished then. -/
theorem receive_final_of_ok {identity reply : String} (waiting : s.state = .awaitingFinal e)
    (taken : (s.takeFinal e message).result = .ok (identity, reply)) :
    (s.receive message).server = { s with state := .finished identity } ∧
      (s.receive message).result = .ok reply :=
  receive_of_ok (by rw [take_final_result waiting, taken]; rfl)

/-- What is not in the grammar is refused for what the reader finds wrong with it. -/
theorem receive_of_unread {error : Error} (fresh : s.state = .awaitingFirst)
    (unread : ClientFirst.ofOctets message = .error error) :
    (s.receive message).result = .error error := by
  rw [receive_first_eq_error_iff fresh, takeFirst, unread]
  rfl

/-- A first message that was answered began an exchange, whose reply was the answer. -/
theorem exists_takeFirst_of_receive {reply : String} (fresh : s.state = .awaitingFirst)
    (answered : (s.receive message).result = .ok reply) :
    ∃ e, (s.takeFirst message).result = .ok e ∧ e.serverFirst = reply ∧
      (s.receive message).server = { s with state := .awaitingFinal e } := by
  rcases receive_cases s message with
    ⟨e, -, taken, server, result⟩ | ⟨e, _, _, final, -⟩ | ⟨_, -, result⟩
  · rw [result] at answered
    cases answered
    exact ⟨e, taken, rfl, server⟩
  · rw [fresh] at final
    contradiction
  · rw [result] at answered
    contradiction

/-- A server that awaits a final message after its first one has taken that. -/
theorem takeFirst_of_receive_state (fresh : s.state = .awaitingFirst)
    (begun : (s.receive message).server.state = .awaitingFinal e) :
    (s.takeFirst message).result = .ok e := by
  rcases receive_cases s message with
    ⟨e', -, taken, server, -⟩ | ⟨e', _, _, final, -⟩ | ⟨_, server, -⟩
  · rw [server] at begun
    cases begun
    exact taken
  · rw [fresh] at final
    contradiction
  · rw [server, fresh] at begun
    contradiction

/-- A final message that was answered authenticated someone. -/
theorem exists_takeFinal_of_receive {reply : String} (waiting : s.state = .awaitingFinal e)
    (answered : (s.receive message).result = .ok reply) :
    ∃ identity, (s.takeFinal e message).result = .ok (identity, reply) := by
  rcases receive_cases s message with
    ⟨_, first, -⟩ | ⟨e', identity, _, final, taken, -, result⟩ | ⟨_, -, result⟩
  · rw [first] at waiting
    contradiction
  · rw [final] at waiting
    rw [result] at answered
    cases waiting
    cases answered
    exact ⟨identity, taken⟩
  · rw [result] at answered
    contradiction

end Server

end Scram
