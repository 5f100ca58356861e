import Mathlib.Data.List.Induction
import Scram.Proofs.Server.Lifecycle

/-!
# What a state says of the past

A server that is awaiting its first message can be brought into any other phase by one row of
operations only: new settings, then a first message, then at once a final one. So the state that a
run has reached says which messages it took and under which settings each of them arrived
(`state_after_eq_awaitingFirst_iff`, `state_after_eq_awaitingFinal_iff`,
`state_after_eq_finished_iff`), and theorems about whole runs are theorems about one or two steps.

The inductions are on the operations from the last one backwards, since it is the last one that a
state speaks of.
-/

namespace Scram.Server

variable {s : Server} {e : Exchange} {identity : String} {operation : Operation}
  {operations : List Operation}

/-- A server that has finished knows whom it authenticated. -/
theorem phase_eq_finished_iff : s.phase = .finished ↔ ∃ identity, s.state = .finished identity := by
  unfold phase
  cases s.state <;> simp [State.phase]

/-! ## One operation -/

/-- What no operation touches. -/
theorem fixed_step (s : Server) (operation : Operation) :
    (s.step operation).server.mechanism = s.mechanism ∧
    (s.step operation).server.credentials = s.credentials ∧
    (s.step operation).server.nonce = s.nonce := by
  cases operation with
  | message octets =>
    rcases receive_cases s octets with
      ⟨_, -, -, server, -⟩ | ⟨_, _, _, -, -, server, -⟩ | ⟨_, server, -⟩
    all_goals
      rw [step, Answer.turn, server]
      exact ⟨rfl, rfl, rfl⟩
  | setPolicy => exact ⟨rfl, rfl, rfl⟩
  | setAuthorizer => exact ⟨rfl, rfl, rfl⟩
  | setBinding => exact ⟨rfl, rfl, rfl⟩

/-- What no message touches. -/
theorem settings_receive (s : Server) (octets : Bytes) :
    (s.receive octets).server.policy = s.policy ∧
    (s.receive octets).server.authorize = s.authorize ∧
    (s.receive octets).server.binding = s.binding := by
  rcases receive_cases s octets with
    ⟨_, -, -, server, -⟩ | ⟨_, _, _, -, -, server, -⟩ | ⟨_, server, -⟩
  all_goals
    rw [server]
    exact ⟨rfl, rfl, rfl⟩

/-- An operation that changes no settings brings a message. -/
theorem exists_message_of_reconfigures_eq_false (h : operation.reconfigures = false) :
    ∃ octets, operation = .message octets := by
  cases operation with
  | message octets => exact ⟨octets, rfl⟩
  | setPolicy => contradiction
  | setAuthorizer => contradiction
  | setBinding => contradiction

theorem state_step_message (octets : Bytes) :
    (s.step (.message octets)).server.state = (s.receive octets).server.state := rfl

/-- A server still awaits its first message where it did and nothing but a setting came. -/
theorem state_step_eq_awaitingFirst_iff :
    (s.step operation).server.state = .awaitingFirst ↔
      s.state = .awaitingFirst ∧ operation.reconfigures := by
  cases kind : operation.reconfigures with
  | true =>
    rw [(step_of_reconfigures kind).1]
    cases s.state <;> simp [State.reconfigured]
  | false =>
    obtain ⟨octets, rfl⟩ := exists_message_of_reconfigures_eq_false kind
    refine iff_of_false ?_ (by simp)
    rw [state_step_message]
    rcases receive_cases s octets with
      ⟨_, -, -, server, -⟩ | ⟨_, _, _, -, -, server, -⟩ | ⟨_, server, -⟩
    · simp [server]
    · simp [server]
    · rw [server]
      cases s.state <;> simp [State.refused]

/-- An exchange is awaiting its final message right after the first one that began it, and at no
other time. -/
theorem state_step_eq_awaitingFinal_iff :
    (s.step operation).server.state = .awaitingFinal e ↔ s.state = .awaitingFirst ∧
      ∃ opening, operation = .message opening ∧ (s.takeFirst opening).result = .ok e := by
  cases kind : operation.reconfigures with
  | true =>
    rw [(step_of_reconfigures kind).1]
    refine iff_of_false ?_ ?_
    · cases s.state <;> simp [State.reconfigured]
    · rintro ⟨-, opening, rfl, -⟩
      contradiction
  | false =>
    obtain ⟨octets, rfl⟩ := exists_message_of_reconfigures_eq_false kind
    rw [state_step_message]
    constructor
    · intro begun
      rcases receive_cases s octets with
        ⟨e', fresh, taken, server, -⟩ | ⟨_, _, _, -, -, server, -⟩ | ⟨_, server, -⟩
      · rw [server] at begun
        cases begun
        exact ⟨fresh, octets, rfl, taken⟩
      · simp [server] at begun
      · rw [server] at begun
        cases state : s.state <;> simp [state, State.refused] at begun
    · rintro ⟨fresh, opening, ⟨⟩, taken⟩
      rw [(receive_first_of_ok fresh taken).1]

/-- An exchange is finished by the final message that it was awaiting, and then for ever. -/
theorem state_step_eq_finished_iff :
    (s.step operation).server.state = .finished identity ↔ s.state = .finished identity ∨
      ∃ e message reply, s.state = .awaitingFinal e ∧ operation = .message message ∧
        (s.takeFinal e message).result = .ok (identity, reply) := by
  constructor
  · intro finished
    cases kind : operation.reconfigures with
    | true =>
      rw [(step_of_reconfigures kind).1] at finished
      cases state : s.state <;> simp_all [State.reconfigured]
    | false =>
      obtain ⟨octets, rfl⟩ := exists_message_of_reconfigures_eq_false kind
      rw [state_step_message] at finished
      rcases receive_cases s octets with
        ⟨_, -, -, server, -⟩ | ⟨e, _, reply, waiting, taken, server, -⟩ | ⟨_, server, -⟩
      · simp [server] at finished
      · rw [server] at finished
        cases finished
        exact .inr ⟨e, octets, reply, waiting, rfl, taken⟩
      · rw [server] at finished
        cases state : s.state <;> simp_all [State.refused]
  · rintro (finished | ⟨e, message, reply, waiting, rfl, taken⟩)
    · exact state_step_of_finished finished operation
    · rw [state_step_message, (receive_final_of_ok waiting taken).1]

/-- Once the first message came, every operation ends the exchange or finds it ended. -/
theorem ended_step (begun : s.state ≠ .awaitingFirst) (operation : Operation) :
    (s.step operation).server.phase = .finished ∨ (s.step operation).server.phase = .aborted := by
  unfold phase
  cases next : (s.step operation).server.state with
  | awaitingFirst => exact absurd (state_step_eq_awaitingFirst_iff.mp next).1 begun
  | awaitingFinal => exact absurd (state_step_eq_awaitingFinal_iff.mp next).1 begun
  | finished => exact .inl rfl
  | aborted => exact .inr rfl

/-! ## Whole runs -/

theorem after_concat (s : Server) (operations : List Operation) (operation : Operation) :
    s.after (operations ++ [operation]) = ((s.after operations).step operation).server := by
  rw [after, List.foldl_append]
  rfl

/-- What no run touches. -/
theorem fixed_after (s : Server) (operations : List Operation) :
    (s.after operations).mechanism = s.mechanism ∧
    (s.after operations).credentials = s.credentials ∧
    (s.after operations).nonce = s.nonce := by
  induction operations using List.reverseRecOn with
  | nil => exact ⟨rfl, rfl, rfl⟩
  | append_singleton operations operation ih =>
    obtain ⟨mechanism, credentials, nonce⟩ := fixed_step (s.after operations) operation
    rw [after_concat, mechanism, credentials, nonce]
    exact ih

/-- Whether no operation brought a message. -/
def Silent (operations : List Operation) : Prop :=
  ∀ operation ∈ operations, operation.reconfigures

/-- A run without messages goes on so as long as no message comes. -/
theorem silent_concat_iff :
    Silent (operations ++ [operation]) ↔ Silent operations ∧ operation.reconfigures := by
  simp [Silent, or_imp, forall_and]

/-- The first message is awaited as long as none came. -/
theorem state_after_eq_awaitingFirst_iff (fresh : s.state = .awaitingFirst) :
    (s.after operations).state = .awaitingFirst ↔ Silent operations := by
  induction operations using List.reverseRecOn with
  | nil => simp [after, fresh, Silent]
  | append_singleton operations operation ih =>
    rw [after_concat, state_step_eq_awaitingFirst_iff, ih, silent_concat_iff]

/-- The final message is awaited where the last operation was the first message, and began an
exchange. -/
theorem state_after_eq_awaitingFinal_iff (fresh : s.state = .awaitingFirst) :
    (s.after operations).state = .awaitingFinal e ↔ ∃ setup opening,
      operations = setup ++ [.message opening] ∧ Silent setup ∧
      ((s.after setup).takeFirst opening).result = .ok e := by
  cases operations using List.reverseRecOn with
  | nil => simp [after, fresh]
  | append_singleton operations operation =>
    rw [after_concat, state_step_eq_awaitingFinal_iff, state_after_eq_awaitingFirst_iff fresh]
    constructor
    · rintro ⟨silent, opening, rfl, taken⟩
      exact ⟨operations, opening, rfl, silent, taken⟩
    · rintro ⟨setup, opening, same, silent, taken⟩
      obtain ⟨rfl, ⟨⟩⟩ := List.append_inj' same rfl
      exact ⟨silent, opening, rfl, taken⟩

/-- The exchange under way was begun by the last operation, which found all that this takes. -/
theorem state_after_eq_awaitingFinal_iff_begins (fresh : s.state = .awaitingFirst) :
    (s.after operations).state = .awaitingFinal e ↔ ∃ setup opening first credentials,
      operations = setup ++ [.message opening] ∧ Silent setup ∧
      (s.after setup).Begins opening first credentials e := by
  simp only [state_after_eq_awaitingFinal_iff fresh, takeFirst_result_eq_ok_iff_begins,
    exists_and_left]

/-- A finished server was set up, began an exchange with the first message it got and finished it
with the operation right after that. -/
theorem state_after_eq_finished_iff (fresh : s.state = .awaitingFirst) :
    (s.after operations).state = .finished identity ↔ ∃ setup opening e message reply later,
      operations = setup ++ .message opening :: .message message :: later ∧ Silent setup ∧
      ((s.after setup).takeFirst opening).result = .ok e ∧
      ((s.after (setup ++ [.message opening])).takeFinal e message).result = .ok (identity, reply) := by
  induction operations using List.reverseRecOn with
  | nil => simp [after, fresh]
  | append_singleton operations operation ih =>
    -- the last operation finished the exchange, or came behind the one that did
    rw [after_concat, state_step_eq_finished_iff, ih]
    constructor
    · rintro (⟨setup, opening, e, message, reply, later, rfl, silent, begun, finished⟩ |
        ⟨e, message, reply, waiting, rfl, finished⟩)
      · exact ⟨setup, opening, e, message, reply, later ++ [operation], by simp, silent, begun, finished⟩
      · obtain ⟨setup, opening, rfl, silent, begun⟩ := (state_after_eq_awaitingFinal_iff fresh).mp waiting
        exact ⟨setup, opening, e, message, reply, [], by simp, silent, begun, finished⟩
    · rintro ⟨setup, opening, e, message, reply, later, same, silent, begun, finished⟩
      cases later using List.reverseRecOn with
      | nil =>
        have regrouped : operations ++ [operation] =
            (setup ++ [.message opening]) ++ [.message message] := by simpa using same
        obtain ⟨rfl, ⟨⟩⟩ := List.append_inj' regrouped rfl
        exact .inr ⟨e, message, reply, (state_after_eq_awaitingFinal_iff fresh).mpr
          ⟨setup, opening, rfl, silent, begun⟩, rfl, finished⟩
      | append_singleton later last =>
        have regrouped : operations ++ [operation] =
            (setup ++ .message opening :: .message message :: later) ++ [last] := by simpa using same
        obtain ⟨rfl, ⟨⟩⟩ := List.append_inj' regrouped rfl
        exact .inl ⟨setup, opening, e, message, reply, later, rfl, silent, begun, finished⟩

end Scram.Server
