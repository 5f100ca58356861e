import Scram.Proofs.Server.Collaborators

/-!
# What stored passwords show

Until a proof has passed, no one can tell from outside what is stored of a password, only whether
there is something: two servers whose stores have the same users with the same salts and counts
look alike through any run, as long as neither of them has asked its authorizer (`secrets_unseen`).

The two runs go in lockstep. `Server.Alike` is what they have in common all the way: everything but
the salted passwords and the keys made from them. `Alike.receive` is that a message finds and leaves
them alike, and looks the same from outside; it rests on one law for each part of a step, put
together by `Audit.Alike.bind`. The keys enter a step in one place before the authorizer is asked,
where the proof is compared, and what a failed comparison says is the same for all of them
(`checkFinal_eq_of_ne_ok`).

How long a step takes is no part of what is seen here.
-/

namespace Scram

/-! ## Steps that look alike -/

namespace Audit

variable {α β γ δ : Type} {r : α → β → Prop} {q : γ → δ → Prop}

/-- Two steps that look alike from outside: they leave the same events, and either fail alike or
pass on results that `r` relates. -/
inductive Alike (r : α → β → Prop) : Audit α → Audit β → Prop
  | passed (events : List Event) {a : α} {b : β} (related : r a b) :
    Alike r ⟨events, .ok a⟩ ⟨events, .ok b⟩
  | failed (events : List Event) (error : Error) :
    Alike r ⟨events, .error error⟩ ⟨events, .error error⟩

theorem Alike.refl (x : Audit α) : x.Alike Eq x := by
  obtain ⟨events, result⟩ := x
  cases result with
  | ok a => exact .passed events rfl
  | error error => exact .failed events error

/-- Steps that look alike do so one after another as well. -/
theorem Alike.bind {x : Audit α} {y : Audit β} {f : α → Audit γ} {g : β → Audit δ}
    (first : x.Alike r y) (rest : ∀ a b, r a b → (f a).Alike q (g b)) :
    (x >>= f).Alike q (y >>= g) := by
  cases first with
  | failed events error => exact .failed events error
  | @passed events a b related =>
    have later := rest a b related
    show Alike q ⟨events ++ (f a).events, (f a).result⟩ ⟨events ++ (g b).events, (g b).result⟩
    generalize f a = x at later
    generalize g b = y at later
    cases later with
    | passed more related => exact .passed (events ++ more) related
    | failed more error => exact .failed (events ++ more) error

/-- What follows one step that both take. -/
theorem Alike.bind_same (x : Audit α) {f : α → Audit γ} {g : α → Audit δ}
    (rest : ∀ a, (f a).Alike q (g a)) : (x >>= f).Alike q (x >>= g) := by
  apply (refl x).bind
  intro a b same
  subst same
  exact rest a

end Audit

/-! ## What may differ -/

/-- What is stored of two passwords that are salted and hashed alike, and are both empty or both
not. -/
structure Credentials.Alike (c c' : Credentials) : Prop where
  salt : c.salt = c'.salt
  iterations : c.iterations = c'.iterations
  empty_iff : c.saltedPassword = [] ↔ c'.saltedPassword = []

/-- An exchange without what was made from the password. -/
def Exchange.redacted (e : Exchange) : Exchange :=
  { e with saltedPassword := [], clientKey := [], storedKey := [] }

namespace Server

/-- Two states that differ in keys at most. -/
inductive State.Alike : State → State → Prop
  | awaitingFirst : Alike .awaitingFirst .awaitingFirst
  | awaitingFinal {e e' : Exchange} (same : e.redacted = e'.redacted) :
    Alike (.awaitingFinal e) (.awaitingFinal e')
  | finished (identity : String) : Alike (.finished identity) (.finished identity)
  | aborted : Alike .aborted .aborted

namespace State.Alike

variable {t t' : State}

theorem refl (t : State) : t.Alike t := by
  cases t with
  | awaitingFirst => exact .awaitingFirst
  | awaitingFinal e => exact .awaitingFinal rfl
  | finished identity => exact .finished identity
  | aborted => exact .aborted

theorem phase (h : t.Alike t') : t.phase = t'.phase := by
  cases h <;> rfl

theorem identity? (h : t.Alike t') : t.identity? = t'.identity? := by
  cases h <;> rfl

theorem refused (h : t.Alike t') : t.refused.Alike t'.refused := by
  cases h with
  | finished identity => exact .finished identity
  | awaitingFirst => exact .aborted
  | awaitingFinal => exact .aborted
  | aborted => exact .aborted

theorem reconfigured (h : t.Alike t') : t.reconfigured.Alike t'.reconfigured := by
  cases h with
  | finished identity => exact .finished identity
  | awaitingFirst => exact .awaitingFirst
  | awaitingFinal => exact .aborted
  | aborted => exact .aborted

end State.Alike

/-- Two servers that differ at most in stored passwords and in the keys made from them. -/
structure Alike (s s' : Server) : Prop where
  mechanism : s.mechanism = s'.mechanism
  policy : s.policy = s'.policy
  credentials : ∀ username,
    Option.Rel Credentials.Alike (s.credentials username) (s'.credentials username)
  authorize : s.authorize = s'.authorize
  binding : s.binding = s'.binding
  nonce : s.nonce = s'.nonce
  state : s.state.Alike s'.state

namespace Alike

variable {s s' : Server} {e e' : Exchange} {message : Bytes}

/-! ## Single steps -/

/-- A look-up finds what is alike, or fails alike: the policy reads the count, and of the password
only whether it is empty. -/
theorem lookUp (h : s.Alike s') (username : String) :
    (s.lookUp username).Alike Credentials.Alike (s'.lookUp username) := by
  have stored := h.credentials username
  unfold Server.lookUp
  apply Audit.Alike.bind_same
  intro
  generalize s.credentials username = found at stored ⊢
  generalize s'.credentials username = found' at stored ⊢
  cases stored with
  | none => exact .failed [] .unknownUser
  | @some c c' alike =>
    dsimp only
    rw [← h.policy, ← alike.iterations]
    by_cases empty : c.saltedPassword = []
    · rw [if_pos empty, if_pos (alike.empty_iff.mp empty)]
      exact .failed _ _
    · rw [if_neg empty, if_neg (mt alike.empty_iff.mpr empty)]
      split
      · exact .failed _ _
      · exact .passed [] alike

/-- Exchanges begun with what is alike differ in keys only. -/
theorem redacted_exchange (h : s.Alike s') {c c' : Credentials} (alike : c.Alike c')
    (first : ClientFirst) (kind : BindingKind) (data : Option Bytes) :
    (s.exchange first kind data c).redacted = (s'.exchange first kind data c').redacted := by
  simp only [Exchange.redacted, exchange, h.nonce, alike.salt, alike.iterations]

/-- A first message begins exchanges that differ in keys only, or is refused alike: no key is read
on the way. -/
theorem takeFirst (h : s.Alike s') (message : Bytes) :
    (s.takeFirst message).Alike (fun e e' => e.redacted = e'.redacted) (s'.takeFirst message) := by
  unfold Server.takeFirst
  rw [← h.mechanism, ← h.policy, ← h.binding]
  apply Audit.Alike.bind_same
  intro first
  apply Audit.Alike.bind_same
  intro kind
  apply Audit.Alike.bind_same
  intro
  apply Audit.Alike.bind_same
  intro data
  apply (h.lookUp first.username).bind
  intro c c' alike
  apply Audit.Alike.bind_same
  intro
  exact .passed [] (h.redacted_exchange alike first kind data)

/-- Failed checks are reported alike, since which of them is reported depends on no key. -/
theorem checkFinal_eq (same : e.redacted = e'.redacted) {final : ClientFinal}
    (failed : s.checkFinal e final ≠ .ok ()) (failed' : s'.checkFinal e' final ≠ .ok ()) :
    s.checkFinal e final = s'.checkFinal e' final := by
  have bindingValue : e.bindingValue = e'.bindingValue := by
    show e.redacted.bindingValue = e'.redacted.bindingValue
    rw [same]
  have nonce : e.nonce = e'.nonce := by
    show e.redacted.nonce = e'.redacted.nonce
    rw [same]
  rw [checkFinal_eq_of_ne_ok failed, checkFinal_eq_of_ne_ok failed', bindingValue, nonce]

/-- Final messages that fail their checks in both servers do so in the same way. -/
theorem takeFinal_eq (same : e.redacted = e'.redacted)
    (failed : ∀ final, ClientFinal.parse message = .ok final → s.checkFinal e final ≠ .ok ())
    (failed' : ∀ final, ClientFinal.parse message = .ok final → s'.checkFinal e' final ≠ .ok ()) :
    s.takeFinal e message = s'.takeFinal e' message := by
  cases read : ClientFinal.parse message with
  | error error =>
    rw [takeFinal_of_unread read, takeFinal_of_unread read]
  | ok final =>
    have both := checkFinal_eq same (failed final read) (failed' final read)
    cases checked : s.checkFinal e final with
    | ok => exact absurd checked (failed final read)
    | error error =>
      rw [takeFinal_of_parse read, takeFinal_of_parse read, ← both, checked]
      rfl

end Alike

/-! ## One operation -/

/-- Whether the authorizer was asked in a turn. -/
def Turn.asksAuthorization (turn : Turn) : Bool :=
  turn.events.any fun
    | .askedAuthorization .. => true
    | _ => false

/-- What is seen of a turn from outside: its result, how far the exchange is and whom it has
authenticated, and what was asked and noted down on the way. -/
structure View where
  result : Option (Except Error String)
  phase : Phase
  identity? : Option String
  events : List Event

def Turn.view (turn : Turn) : View :=
  ⟨turn.result, turn.server.phase, turn.server.identity?, turn.events⟩

/-- Where the authorizer is not asked, the checks have failed. -/
theorem checkFinal_ne_ok_of_unasked {s : Server} {e : Exchange} {message : Bytes}
    {final : ClientFinal} (waiting : s.state = .awaitingFinal e)
    (unasked : (s.step (.message message)).asksAuthorization = false)
    (read : ClientFinal.parse message = .ok final) : s.checkFinal e final ≠ .ok () := by
  intro checked
  have asked : .askedAuthorization e.username e.authzid ∈ (s.step (.message message)).events :=
    askedAuthorization_mem_step_iff.mpr ⟨e, message, final, waiting, rfl, read, checked, rfl, rfl⟩
  exact List.any_eq_false.mp unasked _ asked rfl

namespace Alike

variable {s s' : Server}

/-- The step that a message takes looks alike, where neither server asks its authorizer. -/
theorem take (h : s.Alike s') {message : Bytes}
    (unasked : (s.step (.message message)).asksAuthorization = false)
    (unasked' : (s'.step (.message message)).asksAuthorization = false) :
    (s.take message).Alike (fun x y => x.1.Alike y.1 ∧ x.2 = y.2) (s'.take message) := by
  have states := h.state
  unfold Server.take
  generalize state : s.state = t at states
  generalize state' : s'.state = t' at states
  cases states with
  | awaitingFirst =>
    apply (h.takeFirst message).bind
    intro e e' same
    refine .passed [] ⟨.awaitingFinal same, ?_⟩
    show e.redacted.serverFirst = e'.redacted.serverFirst
    rw [same]
  | awaitingFinal same =>
    dsimp only
    -- the exchanges differ in keys, which nothing but a passed check would show
    have taken := takeFinal_eq same
      (fun _ => checkFinal_ne_ok_of_unasked state unasked)
      (fun _ => checkFinal_ne_ok_of_unasked state' unasked')
    rw [taken, h.mechanism]
    apply Audit.Alike.bind_same
    intro pair
    apply Audit.Alike.bind_same
    intro
    exact .passed [] ⟨.finished pair.1, rfl⟩
  | finished identity => exact .failed [] _
  | aborted => exact .failed [] _

/-- **A message finds and leaves two servers alike**, and looks the same from outside, where it does
not bring either of them to ask its authorizer. -/
theorem receive (h : s.Alike s') {message : Bytes}
    (unasked : (s.step (.message message)).asksAuthorization = false)
    (unasked' : (s'.step (.message message)).asksAuthorization = false) :
    (s.receive message).server.Alike (s'.receive message).server ∧
      (s.receive message).result = (s'.receive message).result ∧
      (s.receive message).events = (s'.receive message).events := by
  have taken := h.take unasked unasked'
  unfold Server.receive
  generalize s.take message = x at taken
  generalize s'.take message = y at taken
  cases taken with
  | @passed events next next' related =>
    obtain ⟨state, reply⟩ := next
    obtain ⟨state', reply'⟩ := next'
    obtain ⟨states, rfl⟩ := related
    exact ⟨{ h with state := states }, rfl, rfl⟩
  | failed events error =>
    refine ⟨{ h with state := h.state.refused }, rfl, ?_⟩
    dsimp only
    rw [h.mechanism]

/-- **So does any operation.** -/
theorem step (h : s.Alike s') (operation : Operation)
    (unasked : (s.step operation).asksAuthorization = false)
    (unasked' : (s'.step operation).asksAuthorization = false) :
    (s.step operation).server.Alike (s'.step operation).server ∧
      (s.step operation).view = (s'.step operation).view := by
  have later : (s.step operation).server.Alike (s'.step operation).server ∧
      (s.step operation).result = (s'.step operation).result ∧
      (s.step operation).events = (s'.step operation).events := by
    cases operation with
    | message octets =>
      obtain ⟨servers, results, events⟩ := h.receive unasked unasked'
      exact ⟨servers, congrArg some results, events⟩
    | setPolicy policy =>
      exact ⟨{ h with policy := rfl, state := h.state.reconfigured }, rfl, rfl⟩
    | setAuthorizer authorize =>
      exact ⟨{ h with authorize := rfl, state := h.state.reconfigured }, rfl, rfl⟩
    | setBinding binding =>
      exact ⟨{ h with binding := rfl, state := h.state.reconfigured }, rfl, rfl⟩
  obtain ⟨servers, results, events⟩ := later
  refine ⟨servers, ?_⟩
  rw [Turn.view, Turn.view, results, events, Server.phase, Server.phase, servers.state.phase,
    Server.identity?, Server.identity?, servers.state.identity?]

/-! ## Whole runs -/

/-- A run looks alike from outside, where no turn of it asks an authorizer. -/
theorem run (h : s.Alike s') {operations : List Operation}
    (unasked : ∀ turn ∈ s.run operations, turn.asksAuthorization = false)
    (unasked' : ∀ turn ∈ s'.run operations, turn.asksAuthorization = false) :
    (s.run operations).map Turn.view = (s'.run operations).map Turn.view := by
  induction operations generalizing s s' with
  | nil => rfl
  | cons operation operations ih =>
    -- the first turn goes by the law of one operation, the later ones by the induction hypothesis
    rw [Server.run, List.forall_mem_cons] at unasked unasked'
    obtain ⟨servers, views⟩ := h.step operation unasked.1 unasked'.1
    rw [Server.run, Server.run, List.map_cons, List.map_cons, views,
      ih servers unasked.2 unasked'.2]

end Alike

/-- The first turns of a run are the run of the first operations. -/
theorem run_take (s : Server) (operations : List Operation) (n : Nat) :
    s.run (operations.take n) = (s.run operations).take n := by
  induction operations generalizing s n with
  | nil => simp [run]
  | cons operation operations ih =>
    cases n with
    | zero => rfl
    | succ n =>
      rw [List.take_succ_cons, run, run, List.take_succ_cons, ih]

/-- **Stored passwords do not show before a proof has passed.** Let two servers differ only in their
stores, and these only in the passwords of users whom both have: the salts and the counts are the
same, and so is which passwords are empty. Then as long as neither has asked its authorizer, no run
of messages and settings tells them apart: all results, phases and identities are the same, and so
is everything that was asked and noted down. -/
theorem secrets_unseen {s : Server} {credentials : String → Option Credentials}
    (alike : ∀ username,
      Option.Rel Credentials.Alike (s.credentials username) (credentials username))
    (operations : List Operation) (n : Nat)
    (unasked : ∀ turn ∈ (s.run operations).take n, turn.asksAuthorization = false)
    (unasked' : ∀ turn ∈ ({ s with credentials }.run operations).take n, turn.asksAuthorization = false) :
    ((s.run operations).take n).map Turn.view =
      (({ s with credentials }.run operations).take n).map Turn.view := by
  have servers : s.Alike { s with credentials } :=
    { mechanism := rfl
      policy := rfl
      credentials := alike
      authorize := rfl
      binding := rfl
      nonce := rfl
      state := .refl s.state }
  rw [← run_take] at unasked unasked' ⊢
  rw [← run_take]
  exact servers.run unasked unasked'

/-- Two passwords, a proof that proves neither of them, and what comes after it. -/
theorem secrets_unseen_of_unreadable_proof :
    let store (saltedPassword : Bytes) := fun username =>
      if username = "user" then some (⟨saltedPassword, [1, 2], ⟨4096, by decide, by decide⟩⟩ : Credentials)
      else none
    let s := start ⟨.sha1, false⟩ (store [7]) "server"
    let s' := start ⟨.sha1, false⟩ (store [8, 9]) "server"
    let operations : List Operation := [.setAuthorizer fun _ authzid => some authzid,
      .message (utf8 "n,,n=user,r=client"),
      .message (utf8 "c=biws,r=clientserver,p=proof?"), .message []]
    (∀ username, Option.Rel Credentials.Alike (store [7] username) (store [8, 9] username)) ∧
      (∀ turn ∈ (s.run operations).take 4, turn.asksAuthorization = false) ∧
      (∀ turn ∈ (s'.run operations).take 4, turn.asksAuthorization = false) ∧
      ((s.run operations).take 4).map Turn.view = ((s'.run operations).take 4).map Turn.view := by
  intro store s s' operations
  have alike (username : String) :
      Option.Rel Credentials.Alike (store [7] username) (store [8, 9] username) := by
    by_cases user : username = "user"
    · simp only [store, if_pos user]
      exact .some ⟨rfl, rfl, by decide⟩
    · simp only [store, if_neg user]
      exact .none
  have unasked : ∀ turn ∈ (s.run operations).take 4, turn.asksAuthorization = false := by
    decide +kernel
  have unasked' : ∀ turn ∈ (s'.run operations).take 4, turn.asksAuthorization = false := by
    decide +kernel
  exact ⟨alike, unasked, unasked', secrets_unseen alike operations 4 unasked unasked'⟩

end Server

end Scram
