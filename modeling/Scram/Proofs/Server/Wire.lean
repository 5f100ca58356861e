import Scram.Proofs.Server.Collaborators

/-!
# What a client is told of a refusal

A client whose message is refused is told one word for the reason, out of a few. This module is about
what the word gives away.

Of a final message it says whether the message was in the grammar, and nothing else: neither which
check has failed nor anything of the exchange (`final_refusals_look_alike`). Of a first message it says
nothing of the accounts that there are: a user without an account, one with an empty password and one
whose credentials are below the policy are refused alike (`unusable_accounts_look_alike`). For that,
a first message is taken in two parts, `settle` and the look-up behind it. The former does not depend on
the store of credentials, and the latter fails in one way as far as the client is told.

How long a refusal takes is not said here, nor what the server notes down about it for itself: its notes
do name the reason.
-/

namespace Scram.Server

variable {s : Server} {e : Exchange} {message : Bytes} {error : Error}

/-! ## The final message -/

/-- What a client is told of a refused final message: whether it was in the grammar. -/
theorem refusalText_of_final (waiting : s.state = .awaitingFinal e)
    (refused : (s.receive message).result = .error error) :
    ServerFinal.refusalText error =
      if ClientFinal.InGrammar message then "e=other-error" else "e=invalid-encoding" := by
  split
  · next inside =>
    obtain ⟨final, read⟩ := ClientFinal.exists_parse_iff.mpr inside
    rw [ServerFinal.refusalText, refusal_of_receive_final_error waiting read refused]
    rfl
  · next outside =>
    have failed := (receive_final_eq_error_iff waiting).mp refused
    rcases takeFinal_error_of_outside outside failed with rfl | ⟨defect, rfl⟩
    · rfl
    · rfl

/-- **Refused final messages look alike.** The client is told `other-error` of a message in the grammar
and `invalid-encoding` of any other, and the exchange has come to nothing. So two refusals in two
exchanges whatsoever, of messages that are both in the grammar or both outside, are told in the same
words and leave the servers in the same phase. -/
theorem final_refusals_look_alike (waiting : s.state = .awaitingFinal e)
    (refused : (s.receive message).result = .error error) :
    ServerFinal.refusalText error =
      (if ClientFinal.InGrammar message then "e=other-error" else "e=invalid-encoding") ∧
    (s.receive message).server.phase = .aborted ∧ (s.receive message).server.identity? = none ∧
    ∀ (s' : Server) (e' : Exchange) (message' : Bytes) (error' : Error),
      s'.state = .awaitingFinal e' → (s'.receive message').result = .error error' →
      (ClientFinal.InGrammar message ↔ ClientFinal.InGrammar message') →
        ServerFinal.refusalText error = ServerFinal.refusalText error' ∧
        (s.receive message).server.phase = (s'.receive message').server.phase := by
  obtain ⟨aborted, unidentified⟩ := aborted_of_receive_final_error waiting refused
  have told := refusalText_of_final waiting refused
  refine ⟨told, aborted, unidentified, ?_⟩
  intro s' e' message' error' waiting' refused' same
  obtain ⟨aborted', -⟩ := aborted_of_receive_final_error waiting' refused'
  have told' := refusalText_of_final waiting' refused'
  refine ⟨?_, aborted.trans aborted'.symm⟩
  simp only [told, told', same]

/-- A proof that cannot be read and a binding that cannot, sent to two servers that have nothing in
common. -/
theorem final_refusals_look_alike_of_unreadable_values :
    let stored : Credentials := ⟨[7], [1, 2], Policy.standard.minIterations⟩
    let fresh := start ⟨.sha1, false⟩ (fun _ => some stored) "server"
    let fresh' := (start ⟨.sha512, true⟩ (fun _ => some stored) "host").withBinding fun _ => some [3]
    let s := (fresh.receive (utf8 "n,,n=user,r=client")).server
    let s' := (fresh'.receive (utf8 "p=tls-unique,a=root,n=admin,r=nonce,x=y")).server
    let message := utf8 "c=biws,r=clientserver,p=proof?"
    let message' := utf8 "c=binding?,r=nonce,p=,p=AAAA"
    (∃ e, s.state = .awaitingFinal e) ∧ (s.receive message).result = .error .wrongProof ∧
      (∃ e, s'.state = .awaitingFinal e) ∧
      (s'.receive message').result = .error .bindingMismatch ∧
      ServerFinal.refusalText .wrongProof = "e=other-error" ∧
      ServerFinal.refusalText .wrongProof = ServerFinal.refusalText .bindingMismatch ∧
      (s.receive message).server.phase = (s'.receive message').server.phase := by
  intro stored fresh fresh' s s' message message'
  have opened : (fresh.receive (utf8 "n,,n=user,r=client")).result =
      .ok "r=clientserver,s=AQI=,i=4096" := by decide +kernel
  have opened' : (fresh'.receive (utf8 "p=tls-unique,a=root,n=admin,r=nonce,x=y")).result =
      .ok "r=noncehost,s=AQI=,i=4096" := by decide +kernel
  obtain ⟨e, -, -, server⟩ := exists_takeFirst_of_receive rfl opened
  obtain ⟨e', -, -, server'⟩ := exists_takeFirst_of_receive rfl opened'
  have waiting : s.state = .awaitingFinal e := congrArg state server
  have waiting' : s'.state = .awaitingFinal e' := congrArg state server'
  have refused : (s.receive message).result = .error .wrongProof := by decide +kernel
  have refused' : (s'.receive message').result = .error .bindingMismatch := by decide +kernel
  have inside : ClientFinal.InGrammar message := by decide +kernel
  have inside' : ClientFinal.InGrammar message' := by decide +kernel
  obtain ⟨told, -, -, alike⟩ := final_refusals_look_alike waiting refused
  rw [if_pos inside] at told
  exact ⟨⟨e, waiting⟩, refused, ⟨e', waiting'⟩, refused', told,
    alike _ _ _ _ waiting' refused' (iff_of_true inside inside')⟩

/-! ## The first message -/

/-- What is known of a first message before anyone's credentials are looked up. -/
structure Settled where
  first : ClientFirst
  kind : BindingKind
  bindingData : Option Bytes

/-- All that is done with a first message before anyone's credentials are looked up. -/
def settle (s : Server) (message : Bytes) : Audit Settled := do
  let first ← Audit.of (ClientFirst.ofOctets message)
  let kind ← Audit.of (BindingKind.ofFlag first.flag)
  Audit.of (s.mechanism.permit kind s.policy.advertisesBinding)
  let bindingData ← s.binding.resolve kind
  return ⟨first, kind, bindingData⟩

/-- A first message is settled, and then its user is looked up. -/
theorem takeFirst_eq (s : Server) (message : Bytes) :
    s.takeFirst message = s.settle message >>= fun settled => do
      let credentials ← s.lookUp settled.first.username
      Audit.note (.begun s.mechanism settled.first.username settled.kind)
      return s.exchange settled.first settled.kind settled.bindingData credentials := by
  simp only [takeFirst, settle, bind_assoc, pure_bind]

/-- What comes of a first message: what is settled of it, and then what the look-up finds. -/
theorem takeFirst_result_eq (s : Server) (message : Bytes) :
    (s.takeFirst message).result = (s.settle message).result >>= fun settled =>
      (s.lookUp settled.first.username).result.map
        (s.exchange settled.first settled.kind settled.bindingData) := by
  rw [takeFirst_eq, Audit.bind_result]
  congr 1
  funext settled
  rw [Audit.bind_result]
  cases (s.lookUp settled.first.username).result <;> rfl

/-- Whom a first message makes the server ask: what is asked to settle it, and the store. -/
theorem questions_takeFirst_eq (s : Server) (message : Bytes) :
    (s.takeFirst message).questions = (s.settle message).questions ++
      match (s.settle message).result with
      | .ok settled => [.lookedUp settled.first.username]
      | .error _ => [] := by
  rw [takeFirst_eq]
  cases known : (s.settle message).result with
  | error => rw [Audit.questions_bind_of_error known, List.append_nil]
  | ok settled =>
    rw [Audit.questions_bind_of_ok known, Audit.questions_bind_of_silent fun _ => rfl,
      questions_lookUp]

/-- Where the first message is awaited, receiving a message asks what taking it asks. -/
theorem questions_receive_first (fresh : s.state = .awaitingFirst) :
    (s.receive message).turn.questions = (s.takeFirst message).questions := by
  have asked := questions_step s (.message message)
  rw [fresh] at asked
  exact asked

/-- Who is looked up is the user of a message that is settled. -/
theorem exists_settled_of_lookedUp {username : String}
    (asked : .lookedUp username ∈ (s.receive message).events) :
    ∃ settled, (s.settle message).result = .ok settled ∧ settled.first.username = username := by
  have inStep : .lookedUp username ∈ (s.step (.message message)).events := asked
  obtain ⟨-, opening, first, kind, same, h, supplied, rfl⟩ := lookedUp_mem_step_iff.mp inStep
  cases same
  obtain ⟨data, resolved⟩ := BindingSource.exists_resolve_result_eq_ok_iff.mpr supplied
  refine ⟨⟨first, kind, data⟩, ?_, rfl⟩
  rw [settle, h.parsed, Audit.of_ok_bind, h.known, Audit.of_ok_bind, h.permitted, Audit.of_ok_bind,
    Audit.bind_result, resolved]
  rfl

/-- A settled message is refused exactly where the look-up of its user fails, and for that. -/
theorem receive_eq_error_iff_of_settled {settled : Settled} (fresh : s.state = .awaitingFirst)
    (known : (s.settle message).result = .ok settled) :
    (s.receive message).result = .error error ↔
      (s.lookUp settled.first.username).result = .error error := by
  rw [receive_first_eq_error_iff fresh, takeFirst_result_eq, bind_of_ok known, map_eq_error_iff]

/-- A message that is not settled is refused for that, whatever is in the store. -/
theorem receive_eq_error_iff_of_unsettled {found : Error} (fresh : s.state = .awaitingFirst)
    (unsettled : (s.settle message).result = .error found) :
    (s.receive message).result = .error error ↔ found = error := by
  rw [receive_first_eq_error_iff fresh, takeFirst_result_eq, bind_of_error unsettled,
    Except.error.injEq]

/-- What a client is told of a refused first message: why it was not settled, and of one that was
settled always the same. -/
theorem refusalText_of_first (fresh : s.state = .awaitingFirst)
    (refused : (s.receive message).result = .error error) :
    ServerFinal.refusalText error =
      match (s.settle message).result with
      | .ok _ => "e=other-error"
      | .error found => ServerFinal.refusalText found := by
  cases known : (s.settle message).result with
  | error found =>
    obtain rfl := (receive_eq_error_iff_of_unsettled fresh known).mp refused
    rfl
  | ok settled =>
    have failed := (receive_eq_error_iff_of_settled fresh known).mp refused
    rw [ServerFinal.refusalText, refusal_of_lookUp_error failed]
    rfl

/-- **Accounts that cannot be used look alike.** Take a first message and two stores of credentials.
Whatever they hold, the transport and the store are asked the same. Where the message is refused with
either store, the client is told the same and the exchange has come to nothing. The user who is looked
up is refused exactly if there are no credentials, or they are of an empty password, or below the
policy; and no credentials and those of an empty password come to the same error, however salted and
however often hashed. -/
theorem unusable_accounts_look_alike (fresh : s.state = .awaitingFirst)
    (credentials : String → Option Credentials) (message : Bytes) :
    let s' := { s with credentials }
    (s.receive message).turn.questions = (s'.receive message).turn.questions ∧
    (∀ error error', (s.receive message).result = .error error →
      (s'.receive message).result = .error error' →
        ServerFinal.refusalText error = ServerFinal.refusalText error' ∧
        (s.receive message).server.phase = .aborted ∧
        (s'.receive message).server.phase = .aborted) ∧
    ∀ username, .lookedUp username ∈ (s.receive message).events →
      ((∃ error, (s.receive message).result = .error error) ↔
        ∀ stored ∈ s.credentials username, stored.saltedPassword = [] ∨
          stored.iterations.toNat < s.policy.minIterations.toNat) ∧
      (s.credentials username = none →
        (∃ stored, credentials username = some stored ∧ stored.saltedPassword = []) →
          (s.receive message).result = .error .unknownUser ∧
          (s'.receive message).result = .error .unknownUser) := by
  intro s'
  have fresh' : s'.state = .awaitingFirst := fresh
  -- nothing is settled by means of the store
  have settle_eq : s'.settle message = s.settle message := rfl
  refine ⟨?_, ?_, ?_⟩
  · rw [questions_receive_first fresh, questions_receive_first fresh', questions_takeFirst_eq,
      questions_takeFirst_eq, settle_eq]
  · intro error error' refused refused'
    refine ⟨?_, (aborted_of_receive_first_error fresh refused).1,
      (aborted_of_receive_first_error fresh' refused').1⟩
    rw [refusalText_of_first fresh refused, refusalText_of_first fresh' refused', settle_eq]
  · intro username asked
    obtain ⟨settled, known, rfl⟩ := exists_settled_of_lookedUp asked
    simp only [receive_eq_error_iff_of_settled fresh known,
      receive_eq_error_iff_of_settled fresh' known]
    refine ⟨exists_lookUp_error_iff, ?_⟩
    rintro absent ⟨empty, found, isEmpty⟩
    have unknown : ∀ stored ∈ s.credentials settled.first.username, stored.saltedPassword = [] := by
      simp [absent]
    have unknown' : ∀ stored ∈ s'.credentials settled.first.username, stored.saltedPassword = [] := by
      intro stored mem
      obtain rfl := Option.some.inj (found.symm.trans mem)
      exact isEmpty
    exact ⟨lookUp_result_eq_unknownUser_iff.mpr unknown, lookUp_result_eq_unknownUser_iff.mpr unknown'⟩

/-- No account, one whose credentials are too weak, and one with an empty password that are weak too. -/
theorem unusable_accounts_look_alike_of_few_iterations :
    let one : IterationCount := ⟨1, by decide, by decide⟩
    let s := start ⟨.sha1, false⟩ (fun _ => none) "server"
    let few : Server := { s with credentials := fun _ => some ⟨[7], [], one⟩ }
    let empty : Server := { s with credentials := fun _ => some ⟨[], [1, 2], one⟩ }
    let message := utf8 "n,,n=user,r=client"
    s.state = .awaitingFirst ∧ .lookedUp "user" ∈ (s.receive message).events ∧
      (few.receive message).result = .error (.fewIterations 1 4096) ∧
      (s.receive message).turn.questions = (few.receive message).turn.questions ∧
      (s.receive message).result = .error .unknownUser ∧
      (empty.receive message).result = .error .unknownUser ∧
      ServerFinal.refusalText .unknownUser = ServerFinal.refusalText (.fewIterations 1 4096) := by
  intro one s few empty message
  have asked : .lookedUp "user" ∈ (s.receive message).events := by decide +kernel
  have refused : (few.receive message).result = .error (.fewIterations 1 4096) := by decide +kernel
  obtain ⟨questions, told, -⟩ := unusable_accounts_look_alike (s := s) rfl few.credentials message
  obtain ⟨-, -, single⟩ := unusable_accounts_look_alike (s := s) rfl empty.credentials message
  obtain ⟨unknown, unknown'⟩ := (single "user" asked).2 rfl ⟨_, rfl, rfl⟩
  exact ⟨rfl, asked, refused, questions, unknown, unknown', (told _ _ unknown refused).1⟩

end Scram.Server
