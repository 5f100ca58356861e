import Scram.Message.ServerFinal
import Scram.Proofs.Grammar.Base64
import Scram.Proofs.Grammar.Commas

/-!
# The grammar of the server's final message

A final message is a signature or a refusal, up to the first comma (`parse_eq_signature_iff`,
`parse_eq_refusal_iff`). The two readings exclude each other by the first character, so a refusal
is never taken for a signature whatever it says.
-/

namespace Scram.ServerFinal

/-- The message of one attribute, with anything behind it. -/
theorem eq_append_iff {message key value tail : String} :
    message = key ++ value ++ tail ↔ message.toList = key.toList ++ (value.toList ++ tail.toList) := by
  rw [← String.toList_inj]
  simp

/-- A message that begins with the name of an attribute is its value and a tail. -/
theorem exists_tail_of_after {message key : String} {l : List Char}
    (mark : Cut.after? key.toList message.toList = some l) :
    ',' ∉ (String.ofList (Cut.before ',' l)).toList ∧ ∃ tail : String, Cut.Tail ',' tail.toList ∧
      message = key ++ String.ofList (Cut.before ',' l) ++ tail := by
  obtain ⟨absent, rest⟩ := Cut.before_eq_iff.mp (rfl : Cut.before ',' l = _)
  refine ⟨by rwa [String.toList_ofList], ?_⟩
  rcases rest with whole | ⟨rest, split⟩
  · refine ⟨"", .inl rfl, ?_⟩
    rw [eq_append_iff, Cut.after?_eq_some_iff.mp mark, String.toList_ofList, ← whole]
    exact congrArg _ (List.append_nil l).symm
  · refine ⟨String.ofList (',' :: rest), .inr ⟨rest, String.toList_ofList⟩, ?_⟩
    rw [eq_append_iff, Cut.after?_eq_some_iff.mp mark]
    simpa using split

/-- A signature is read from any form of its octets after the letter `v`, up to the first comma. -/
theorem parse_eq_signature_iff {message : String} {octets : Bytes} :
    parse message = .ok (.signature octets) ↔ ∃ written tail : String,
      ',' ∉ written.toList ∧ Cut.Tail ',' tail.toList ∧ message = "v=" ++ written ++ tail ∧
      Base64.decode? (utf8 written) = some octets := by
  constructor
  · intro read
    unfold parse at read
    split at read
    · next l mark =>
      obtain ⟨_, decoded, same⟩ := bind_eq_ok_iff.mp read
      cases same
      obtain ⟨absent, tail, isTail, text⟩ := exists_tail_of_after mark
      exact ⟨_, tail, absent, isTail, text, expect_eq_ok_iff.mp decoded⟩
    · obtain ⟨_, -, same⟩ := bind_eq_ok_iff.mp read
      cases same
  · intro given
    obtain ⟨written, tail, absent, isTail, text, decoded⟩ := given
    rw [eq_append_iff] at text
    unfold parse
    rw [text, Cut.after?_append]
    simp only [Cut.before_append absent isTail, String.ofList_toList, decoded]
    rfl

/-- A refusal is what stands after the letter `e`, up to the first comma. -/
theorem parse_eq_refusal_iff {message value : String} :
    parse message = .ok (.refusal value) ↔ ∃ tail : String,
      ',' ∉ value.toList ∧ Cut.Tail ',' tail.toList ∧ message = "e=" ++ value ++ tail := by
  constructor
  · intro read
    unfold parse at read
    split at read
    · obtain ⟨_, -, same⟩ := bind_eq_ok_iff.mp read
      cases same
    · obtain ⟨l, mark, same⟩ := bind_eq_ok_iff.mp read
      cases same
      obtain ⟨absent, tail, isTail, text⟩ := exists_tail_of_after (expect_eq_ok_iff.mp mark)
      exact ⟨tail, absent, isTail, text⟩
  · intro given
    obtain ⟨tail, absent, isTail, text⟩ := given
    rw [eq_append_iff] at text
    -- signatures are looked for first, and this message begins with another letter
    have other : Cut.after? "v=".toList message.toList = none := by
      rw [text, Cut.after?_eq_none_iff]
      intro r same
      have heads := congrArg List.head? same
      revert heads
      simp
    unfold parse
    rw [other, text, Cut.after?_append]
    simp only [expect, bind, Except.bind, pure, Except.pure, Cut.before_append absent isTail,
      String.ofList_toList]

/-- What a server signs with reads back. -/
theorem parse_signatureText (signature : Bytes) :
    parse (signatureText signature) = .ok (.signature signature) := by
  refine parse_eq_signature_iff.mpr
    ⟨Base64.text signature, "", Base64.comma_not_mem_text signature, .inl rfl, ?_, ?_⟩
  · rw [signatureText, String.append_empty]
  · rw [Base64.utf8_text, Base64.decode?_encode]

/-- What is outside the grammar has no verdict, or a signature in no form of an octet string. -/
theorem parse_error_cases {message : String} {error : Error} (failed : parse message = .error error) :
    error = .missing .verdict ∨ error = .invalid .verdict := by
  have kinds : FailsOnlyAs (fun e => e = .missing .verdict ∨ e = .invalid .verdict)
      (parse message) := by
    unfold parse
    split
    · exact (failsOnlyAs_expect (.inr rfl)).bind fun _ => failsOnlyAs_ok _
    · exact (failsOnlyAs_expect (.inl rfl)).bind fun _ => failsOnlyAs_ok _
  exact kinds error failed

theorem signatureText_inj {signature signature' : Bytes} :
    signatureText signature = signatureText signature' ↔ signature = signature' := by
  refine ⟨?_, congrArg _⟩
  intro same
  have read := parse_signatureText signature
  rw [same, parse_signatureText] at read
  cases read
  rfl

/-- No refusal has a comma, so that none is cut short. -/
theorem comma_not_mem_refusal (refusal : Refusal) : ',' ∉ refusal.text.toList := by
  cases refusal <;> decide

/-- What a server refuses with reads back, as the little that it says of the error. -/
theorem parse_refusalText (error : Error) :
    parse (refusalText error) = .ok (.refusal error.refusal.text) := by
  refine parse_eq_refusal_iff.mpr ⟨"", comma_not_mem_refusal _, .inl rfl, ?_⟩
  rw [refusalText, String.append_empty]

end Scram.ServerFinal
