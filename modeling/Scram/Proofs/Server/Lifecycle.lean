import Scram.Proofs.Server.Steps
import Scram.Server.Run

/-!
# The life of a server

What holds of a server in every run, whatever messages arrive and whenever it is reconfigured. A
phase is only ever left forwards, and the two ends of an exchange are never left at all; an
identity is there exactly at the one end; messages are accepted at most twice, and then one right
after the other.

All of it rests on `step_cases`, the four things that one operation can do to the state. The law of
whole runs is about the row of accepting turns, and follows by induction on the operations, once
for each phase that a run can start from.

Nothing is said here about which messages are accepted.
-/

namespace Scram

/-- The moves between phases that an operation can make. -/
inductive Phase.Moves : Phase → Phase → Prop
  | stay (phase : Phase) : Moves phase phase
  | answered : Moves .awaitingFirst .awaitingFinal
  | refusedFirst : Moves .awaitingFirst .aborted
  | authenticated : Moves .awaitingFinal .finished
  | endedFinal : Moves .awaitingFinal .aborted

namespace Server

/-- Whether an operation sets something anew, rather than bringing a message. -/
def Operation.reconfigures : Operation → Bool
  | .message _ => false
  | .setPolicy _ | .setAuthorizer _ | .setBinding _ => true

/-- Whether a message was accepted in a turn. -/
def Turn.accepted (turn : Turn) : Bool :=
  match turn.result with
  | some (.ok _) => true
  | _ => false

/-! ## One operation -/

/-- A new setting accepts nothing, and leaves the state that reconfiguring leaves. -/
theorem step_of_reconfigures {s : Server} {operation : Operation} (h : operation.reconfigures) :
    (s.step operation).server.state = s.state.reconfigured ∧ (s.step operation).accepted = false := by
  cases operation with
  | message => contradiction
  | setPolicy => exact ⟨rfl, rfl⟩
  | setAuthorizer => exact ⟨rfl, rfl⟩
  | setBinding => exact ⟨rfl, rfl⟩

/-- **All that an operation can do to the state**: a message is accepted, in one of the two phases
that await one, or refused; or the server is reconfigured. -/
theorem step_cases (s : Server) (operation : Operation) :
    (∃ e, s.state = .awaitingFirst ∧ (s.step operation).server.state = .awaitingFinal e ∧
      (s.step operation).accepted = true) ∨
    (∃ e identity, s.state = .awaitingFinal e ∧
      (s.step operation).server.state = .finished identity ∧ (s.step operation).accepted = true) ∨
    ((s.step operation).server.state = s.state.refused ∧ (s.step operation).accepted = false) ∨
    ((s.step operation).server.state = s.state.reconfigured ∧ (s.step operation).accepted = false) := by
  cases kind : operation.reconfigures with
  | true => exact .inr (.inr (.inr (step_of_reconfigures kind)))
  | false =>
    cases operation with
    | message octets =>
      simp only [step, Answer.turn, Turn.accepted]
      rcases receive_cases s octets with
        ⟨e, first, -, server, result⟩ | ⟨e, identity, reply, final, -, server, result⟩ |
        ⟨error, server, result⟩
      · exact .inl ⟨e, first, by rw [server], by rw [result]⟩
      · exact .inr (.inl ⟨e, identity, final, by rw [server], by rw [result]⟩)
      · exact .inr (.inr (.inl ⟨by rw [server], by rw [result]⟩))
    | setPolicy => contradiction
    | setAuthorizer => contradiction
    | setBinding => contradiction

/-- An identity is there exactly at the end that authenticates. -/
theorem identity?_isSome_iff (s : Server) : s.identity?.isSome ↔ s.phase = .finished := by
  unfold identity? phase
  cases s.state <;> simp [State.identity?, State.phase]

/-- An operation moves the phase forwards or leaves it. -/
theorem step_moves (s : Server) (operation : Operation) :
    Phase.Moves s.phase (s.step operation).server.phase := by
  unfold phase
  rcases step_cases s operation with
    ⟨e, first, next, -⟩ | ⟨e, identity, final, next, -⟩ | ⟨next, -⟩ | ⟨next, -⟩
  · rw [first, next]
    exact .answered
  · rw [final, next]
    exact .authenticated
  · rw [next]
    cases s.state with
    | awaitingFirst => exact .refusedFirst
    | awaitingFinal => exact .endedFinal
    | finished => exact .stay _
    | aborted => exact .stay _
  · rw [next]
    cases s.state with
    | awaitingFirst => exact .stay _
    | awaitingFinal => exact .endedFinal
    | finished => exact .stay _
    | aborted => exact .stay _

/-- A refused message leaves the state that refusing leaves. -/
theorem refused_of_receive_error {s : Server} {message : Bytes} {error : Error}
    (failed : (s.receive message).result = .error error) :
    (s.receive message).server.state = s.state.refused := by
  rcases receive_cases s message with
    ⟨e, -, -, -, result⟩ | ⟨e, identity, reply, -, -, -, result⟩ | ⟨_, server, -⟩
  · rw [result] at failed
    contradiction
  · rw [result] at failed
    contradiction
  · rw [server]

/-- A refused message aborts an exchange that is not finished, and leaves no identity. -/
theorem aborted_of_receive_error {s : Server} {message : Bytes} {error : Error}
    (failed : (s.receive message).result = .error error) (unfinished : s.phase ≠ .finished) :
    (s.receive message).server.phase = .aborted ∧ (s.receive message).server.identity? = none := by
  unfold phase identity? at *
  rw [refused_of_receive_error failed]
  cases state : s.state with
  | finished => simp [state, State.phase] at unfinished
  | awaitingFirst => exact ⟨rfl, rfl⟩
  | awaitingFinal => exact ⟨rfl, rfl⟩
  | aborted => exact ⟨rfl, rfl⟩

/-- A refused message of an exchange that is not over ends it. -/
theorem aborted_of_receive_first_error {s : Server} {message : Bytes} {error : Error}
    (fresh : s.state = .awaitingFirst) (failed : (s.receive message).result = .error error) :
    (s.receive message).server.phase = .aborted ∧ (s.receive message).server.identity? = none := by
  apply aborted_of_receive_error failed
  rw [phase, fresh]
  exact nofun

theorem aborted_of_receive_final_error {s : Server} {e : Exchange} {message : Bytes} {error : Error}
    (waiting : s.state = .awaitingFinal e) (failed : (s.receive message).result = .error error) :
    (s.receive message).server.phase = .aborted ∧ (s.receive message).server.identity? = none := by
  apply aborted_of_receive_error failed
  rw [phase, waiting]
  exact nofun

/-- A new setting ends an exchange under way and changes the phase of no other. -/
theorem phase_of_reconfigures {s : Server} {operation : Operation} (h : operation.reconfigures) :
    (s.step operation).server.phase = if s.phase = .awaitingFinal then .aborted else s.phase := by
  unfold phase
  rw [(step_of_reconfigures h).1]
  cases s.state <;> rfl

/-! ## Whole runs -/

/-- No operation changes a finished exchange. -/
theorem state_step_of_finished {s : Server} {identity : String}
    (finished : s.state = .finished identity) (operation : Operation) :
    (s.step operation).server.state = .finished identity := by
  rcases step_cases s operation with ⟨_, first, -⟩ | ⟨_, _, final, -⟩ | ⟨next, -⟩ | ⟨next, -⟩
  · rw [first] at finished
    contradiction
  · rw [final] at finished
    contradiction
  · rw [next, finished]
    rfl
  · rw [next, finished]
    rfl

/-- No run changes a finished exchange. -/
theorem state_after_of_finished {s : Server} {identity : String}
    (finished : s.state = .finished identity) (operations : List Operation) :
    (s.after operations).state = .finished identity := by
  induction operations generalizing s with
  | nil => exact finished
  | cons operation operations ih => exact ih (state_step_of_finished finished operation)

/-- An exchange that has ended accepts nothing more. -/
theorem accepted_of_ended {s : Server} (ended : s.phase = .finished ∨ s.phase = .aborted)
    (operations : List Operation) :
    (s.run operations).map Turn.accepted = List.replicate operations.length false := by
  induction operations generalizing s with
  | nil => rfl
  | cons operation operations ih =>
    -- what the induction carries: one operation accepts nothing and leaves the exchange ended
    have still : (s.step operation).accepted = false ∧
        ((s.step operation).server.phase = .finished ∨ (s.step operation).server.phase = .aborted) := by
      unfold phase at *
      rcases step_cases s operation with
        ⟨_, first, -⟩ | ⟨_, _, final, -⟩ | ⟨next, refused⟩ | ⟨next, refused⟩
      · simp [first, State.phase] at ended
      · simp [final, State.phase] at ended
      · rw [next]
        cases state : s.state <;> simp_all [State.phase, State.refused]
      · rw [next]
        cases state : s.state <;> simp_all [State.phase, State.reconfigured]
    rw [run, List.map_cons, still.1, ih still.2]
    rfl

/-- Once the first message is answered, only the very next operation can be accepted. -/
theorem accepted_of_awaitingFinal {s : Server} {e : Exchange} (waiting : s.state = .awaitingFinal e)
    (operations : List Operation) :
    ∃ accepted later, accepted ≤ 1 ∧ (s.run operations).map Turn.accepted =
      List.replicate accepted true ++ List.replicate later false := by
  cases operations with
  | nil => exact ⟨0, 0, Nat.zero_le 1, rfl⟩
  | cons operation operations =>
    rw [run, List.map_cons]
    rcases step_cases s operation with
      ⟨_, first, -⟩ | ⟨_, identity, -, next, accepted⟩ | ⟨next, refused⟩ | ⟨next, refused⟩
    · rw [first] at waiting
      contradiction
    · have ended : (s.step operation).server.phase = .finished := by rw [phase, next]; rfl
      exact ⟨1, operations.length, Nat.le_refl 1, by rw [accepted, accepted_of_ended (.inl ended)]; rfl⟩
    · have ended : (s.step operation).server.phase = .aborted := by rw [phase, next, waiting]; rfl
      exact ⟨0, operations.length + 1, Nat.zero_le 1,
        by rw [refused, accepted_of_ended (.inr ended)]; rfl⟩
    · have ended : (s.step operation).server.phase = .aborted := by rw [phase, next, waiting]; rfl
      exact ⟨0, operations.length + 1, Nat.zero_le 1,
        by rw [refused, accepted_of_ended (.inr ended)]; rfl⟩

/-- A run from the start accepts nothing for a while, then at most two messages in a row, and then
nothing any more. -/
theorem accepted_of_awaitingFirst {s : Server} (fresh : s.state = .awaitingFirst)
    (operations : List Operation) :
    ∃ before accepted later, accepted ≤ 2 ∧ (s.run operations).map Turn.accepted =
      List.replicate before false ++ List.replicate accepted true ++ List.replicate later false := by
  induction operations generalizing s with
  | nil => exact ⟨0, 0, 0, Nat.zero_le 2, rfl⟩
  | cons operation operations ih =>
    rw [run, List.map_cons]
    rcases step_cases s operation with
      ⟨_, -, next, accepted⟩ | ⟨_, _, final, -⟩ | ⟨next, refused⟩ | ⟨next, refused⟩
    -- from the first acceptance on the run is one that awaits the final message
    · obtain ⟨count, later, few, rest⟩ := accepted_of_awaitingFinal next operations
      exact ⟨0, count + 1, later, Nat.succ_le_succ few, by rw [accepted, rest]; rfl⟩
    · rw [final] at fresh
      contradiction
    · have ended : (s.step operation).server.phase = .aborted := by rw [phase, next, fresh]; rfl
      exact ⟨operations.length + 1, 0, 0, Nat.zero_le 2,
        by rw [refused, accepted_of_ended (.inr ended)]; simp [List.replicate_succ]⟩
    · rw [fresh] at next
      obtain ⟨before, count, later, few, rest⟩ := ih next
      exact ⟨before + 1, count, later, few, by rw [refused, rest]; rfl⟩

/-- **The life of a server.** After any operations on a fresh server: it has an identity exactly when
it is finished; phases move forwards only; a refused message ends an unfinished exchange and leaves
no identity; a new setting changes the phase only by ending an exchange under way; the accepting
turns of the whole run are at most two, one right after the other; and a finished server refuses
every message as out of sequence, with its phase and its identity unchanged for ever. -/
theorem lifecycle (mechanism : Mechanism) (credentials : String → Option Credentials)
    (nonce : String) (operations : List Operation) :
    let fresh := start mechanism credentials nonce
    let s := fresh.after operations
    (s.identity?.isSome ↔ s.phase = .finished) ∧
    (∀ operation, Phase.Moves s.phase (s.step operation).server.phase) ∧
    (∀ message error, (s.receive message).result = .error error → s.phase ≠ .finished →
      (s.receive message).server.phase = .aborted ∧ (s.receive message).server.identity? = none) ∧
    (∀ operation, operation.reconfigures → (s.step operation).server.phase =
      if s.phase = .awaitingFinal then .aborted else s.phase) ∧
    (∃ before accepted later, accepted ≤ 2 ∧ (fresh.run operations).map Turn.accepted =
      List.replicate before false ++ List.replicate accepted true ++ List.replicate later false) ∧
    (s.phase = .finished → ∀ later, (s.after later).phase = .finished ∧
      (s.after later).identity? = s.identity? ∧ ∀ message,
        ((s.after later).receive message).result = .error (.outOfSequence .finished)) := by
  intro fresh s
  refine ⟨identity?_isSome_iff s, step_moves s, fun _ _ => aborted_of_receive_error,
    fun _ => phase_of_reconfigures, accepted_of_awaitingFirst rfl operations, ?_⟩
  intro finished later
  obtain ⟨identity, state⟩ : ∃ identity, s.state = .finished identity := by
    unfold phase at finished
    cases state : s.state <;> simp_all [State.phase]
  have kept := state_after_of_finished state later
  refine ⟨?_, ?_, ?_⟩
  · rw [phase, kept]
    rfl
  · rw [identity?, identity?, kept, state]
  · intro message
    exact (receive_of_error (take_finished_result kept)).2

end Server

end Scram
