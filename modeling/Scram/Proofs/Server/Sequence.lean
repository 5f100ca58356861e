import Scram.Proofs.Server.Steps

/-!
# Messages out of sequence

A server refuses a message as out of sequence in two cases: when its exchange is over, whatever the
message is, and when it awaits the final message and is sent a first one, which may be the one that
it has answered or any other. Nothing else is refused so, and neither case is ever reported as
anything else (`out_of_sequence_exact`).

The second case rests on the two grammars having no message in common. They are told apart by the
first octet, which is also why a server need not read a message for a first one when it begins as a
final one does (`isFirst_iff`). What is in neither grammar is refused for what the reader of final
messages finds wrong with it.

Nothing is said here of the settings: a new one, too, ends an exchange under way, and it is the
message behind it that is then out of sequence.
-/

namespace Scram.Server

variable {s : Server} {e : Exchange} {message : Bytes} {phase : Phase}

/-! ## The first message -/

/-- Resolving fails for want of data only. -/
theorem resolve_result_ne_outOfSequence (source : BindingSource) (kind : BindingKind) :
    FailsOnlyAs (· ≠ .outOfSequence phase) (source.resolve kind).result := by
  unfold BindingSource.resolve
  cases kind.isBound with
  | false => exact failsOnlyAs_ok _
  | true =>
    cases source kind with
    | none => exact failsOnlyAs_error nofun
    | some data => exact failsOnlyAs_ok _

/-- A flag is refused only for the name of its binding. -/
theorem ofFlag_ne_outOfSequence (flag : BindingFlag) :
    FailsOnlyAs (· ≠ .outOfSequence phase) (BindingKind.ofFlag flag) := by
  fun_cases BindingKind.ofFlag flag with
  | case1 => exact failsOnlyAs_ok _
  | case2 => exact failsOnlyAs_ok _
  | case3 => exact failsOnlyAs_ok _
  | case4 => exact failsOnlyAs_ok _
  | case5 => exact failsOnlyAs_error nofun

/-- A kind is refused only as a downgrade or for its binding. -/
theorem permit_ne_outOfSequence (m : Mechanism) (kind : BindingKind) (advertises : Bool) :
    FailsOnlyAs (· ≠ .outOfSequence phase) (m.permit kind advertises) := by
  unfold Mechanism.permit
  split
  · exact failsOnlyAs_ok _
  · exact failsOnlyAs_ok _
  · exact failsOnlyAs_ok _
  · exact failsOnlyAs_ensure nofun
  · exact failsOnlyAs_error nofun

/-- A look-up fails in ways of which the client is told something else. -/
theorem lookUp_ne_outOfSequence (s : Server) (username : String) :
    FailsOnlyAs (· ≠ .outOfSequence phase) (s.lookUp username).result := by
  intro error failed
  rintro rfl
  have told := refusal_of_lookUp_error failed
  contradiction

/-- No message is out of sequence where the first one is awaited. -/
theorem takeFirst_ne_outOfSequence (s : Server) (message : Bytes) :
    FailsOnlyAs (· ≠ .outOfSequence phase) (s.takeFirst message).result := by
  unfold takeFirst
  simp only [Audit.bind_result, Audit.of_result]
  have read : FailsOnlyAs (· ≠ .outOfSequence phase) (ClientFirst.ofOctets message) := by
    intro error failed
    obtain ⟨defect, rfl⟩ := (ClientFirst.ofOctets_failsOnlyAs_aboutField message error failed).isMalformed
    exact nofun
  refine read.bind fun first => ?_
  refine (ofFlag_ne_outOfSequence _).bind fun kind => ?_
  refine (permit_ne_outOfSequence _ _ _).bind fun _ => ?_
  refine (resolve_result_ne_outOfSequence _ _).bind fun data => ?_
  exact (lookUp_ne_outOfSequence _ _).bind fun credentials => failsOnlyAs_ok _

/-! ## The final message -/

/-- Where the final message is awaited, a first one is out of sequence, and nothing else is. -/
theorem takeFinal_eq_outOfSequence_iff :
    (s.takeFinal e message).result = .error (.outOfSequence phase) ↔
      phase = .awaitingFinal ∧ isFirst message := by
  cases read : ClientFinal.parse message with
  | ok final =>
    refine iff_of_false ?_ fun given => not_isFirst_of_parse read given.2
    intro refused
    rcases takeFinal_error_cases read refused with failed | ⟨-, -, other⟩
    · rcases checkFinal_error_cases failed with ⟨-, other⟩ | ⟨-, other | other⟩ <;> cases other
    · cases other
  | error error =>
    obtain ⟨defect, rfl⟩ :=
      (ClientFinal.parse_failsOnlyAs_aboutField message error read).isMalformed
    rw [takeFinal_of_unread read, Audit.fail_result]
    cases isFirst message <;> simp [eq_comm]

/-- Where the final message is awaited, what is neither in its grammar nor a first message is
malformed. -/
theorem takeFinal_of_neither (outside : ¬ClientFinal.InGrammar message) (other : ¬isFirst message) :
    ∃ defect, (s.takeFinal e message).result = .error (.malformed defect) := by
  cases read : ClientFinal.parse message with
  | ok final => exact absurd (ClientFinal.exists_parse_iff.mp ⟨final, read⟩) outside
  | error error =>
    obtain ⟨defect, rfl⟩ :=
      (ClientFinal.parse_failsOnlyAs_aboutField message error read).isMalformed
    rw [takeFinal_of_unread read, if_neg other]
    exact ⟨defect, rfl⟩

/-! ## Any message -/

/-- A server that awaits the final message has an exchange under way. -/
theorem phase_eq_awaitingFinal_iff : s.phase = .awaitingFinal ↔ ∃ e, s.state = .awaitingFinal e := by
  unfold Server.phase
  cases s.state <;> simp [State.phase]

/-- The two cases: an exchange that is over, and a first message where the final one is awaited. -/
theorem receive_eq_outOfSequence_iff :
    (s.receive message).result = .error (.outOfSequence phase) ↔
      phase = s.phase ∧ (s.phase = .finished ∨ s.phase = .aborted) ∨
      phase = .awaitingFinal ∧ s.phase = .awaitingFinal ∧ isFirst message := by
  unfold Server.phase
  cases state : s.state with
  | awaitingFirst =>
    rw [receive_first_eq_error_iff state]
    refine iff_of_false ?_ (by simp [State.phase])
    intro refused
    exact takeFirst_ne_outOfSequence s message _ refused rfl
  | awaitingFinal e =>
    rw [receive_final_eq_error_iff state, takeFinal_eq_outOfSequence_iff]
    simp [State.phase]
  | finished identity =>
    rw [(receive_of_error (take_finished_result state)).2]
    constructor
    · rintro ⟨⟩
      exact .inl ⟨rfl, .inl rfl⟩
    · rintro (⟨rfl, -⟩ | ⟨-, other, -⟩)
      · rfl
      · contradiction
  | aborted =>
    rw [(receive_of_error (take_aborted_result state)).2]
    constructor
    · rintro ⟨⟩
      exact .inl ⟨rfl, .inr rfl⟩
    · rintro (⟨rfl, -⟩ | ⟨-, other, -⟩)
      · rfl
      · contradiction

/-- What is taken for a first message is the octets of a text that reads as one. -/
theorem isFirst_iff_exists_text :
    isFirst message ↔ ∃ text first, utf8 text = message ∧ ClientFirst.parse text = .ok first := by
  rw [isFirst_iff]
  simp only [ClientFirst.ofOctets_eq_ok_iff_exists_text]
  exact exists_comm

/-- **What is out of sequence.** No octets are at once a first message and a final one. Whatever a
server has gone through, a message is refused as out of sequence in a phase exactly if that is the
server's own and its exchange is over, or if both await the final message and the message reads as a
first one. No message is ever refused so for the phase that awaits the first one. And where the final
message is awaited, what is neither in its grammar nor a first message is refused as malformed. -/
theorem out_of_sequence_exact (s : Server) (message : Bytes) :
    (∀ text first final, utf8 text = message → ClientFirst.parse text = .ok first →
      ClientFinal.parse message ≠ .ok final) ∧
    (∀ phase, (s.receive message).result = .error (.outOfSequence phase) ↔
      phase = s.phase ∧ (s.phase = .finished ∨ s.phase = .aborted) ∨
      phase = .awaitingFinal ∧ s.phase = .awaitingFinal ∧
        ∃ text first, utf8 text = message ∧ ClientFirst.parse text = .ok first) ∧
    (s.receive message).result ≠ .error (.outOfSequence .awaitingFirst) ∧
    (s.phase = .awaitingFinal → ¬ClientFinal.InGrammar message →
      (¬∃ text first, utf8 text = message ∧ ClientFirst.parse text = .ok first) →
        ∃ defect, (s.receive message).result = .error (.malformed defect)) := by
  simp only [← isFirst_iff_exists_text]
  refine ⟨?_, fun _ => receive_eq_outOfSequence_iff, ?_, ?_⟩
  · intro text first final octets read both
    exact not_isFirst_of_parse both (isFirst_iff_exists_text.mpr ⟨text, first, octets, read⟩)
  · rw [ne_eq, receive_eq_outOfSequence_iff]
    rintro (⟨own, done | done⟩ | ⟨other, -⟩)
    · rw [done] at own
      contradiction
    · rw [done] at own
      contradiction
    · contradiction
  · intro waiting outside other
    obtain ⟨e, state⟩ := phase_eq_awaitingFinal_iff.mp waiting
    obtain ⟨defect, failed⟩ := takeFinal_of_neither (s := s) (e := e) outside other
    exact ⟨defect, (receive_final_eq_error_iff state).mpr failed⟩

end Scram.Server
