import Scram.Proofs.Client.Steps

/-!
# What a client takes for the server's proof

A client that has sent its final message decides by one text whether the other end is the server it
takes itself to be speaking to. The text may be anything. `settle_exact` says of each text what the
client makes of it: it is settled by the signature that it awaits, written in base 64 with its padding
or with part of it or none, and whatever comes behind the first comma; it names the refusal that it is
told; it does not take any other octets for the signature; and nothing else is in the grammar.

There is no second form of the signature, with other symbols or with bits that no octet uses. That
is what the reader of base 64 owes to this module (`Base64.decode?_eq_some_iff`).

That only the server can make the signature is not said here.
-/

namespace Scram.Client

namespace AwaitingFinal

variable {c : AwaitingFinal} {serverFinal : String}

/-- A client settles for the forms of the signature it awaits, up to the first comma. -/
theorem settle_eq_ok_iff_spells :
    c.settle serverFinal = .ok () ↔ ∃ written tail : String,
      Base64.Spells (utf8 written) c.serverSignature ∧ Cut.Tail ',' tail.toList ∧
        serverFinal = "v=" ++ written ++ tail := by
  rw [settle_eq_ok_iff, ServerFinal.parse_eq_signature_iff]
  constructor
  · intro given
    obtain ⟨written, tail, -, isTail, text, read⟩ := given
    exact ⟨written, tail, Base64.decode?_eq_some_iff.mp read, isTail, text⟩
  · intro given
    obtain ⟨written, tail, spells, isTail, text⟩ := given
    have absent : ',' ∉ written.toList := mt (comma_mem_utf8_iff written).mpr spells.comma_not_mem
    exact ⟨written, tail, absent, isTail, text, Base64.decode?_eq_some_iff.mpr spells⟩

/-- A refusal is reported with its own text. -/
theorem settle_eq_rejected_iff {value : String} :
    c.settle serverFinal = .error (.rejected value) ↔ ∃ tail : String,
      ',' ∉ value.toList ∧ Cut.Tail ',' tail.toList ∧ serverFinal = "e=" ++ value ++ tail := by
  rw [settle_eq_error_iff, ← ServerFinal.parse_eq_refusal_iff]
  constructor
  · rintro (unread | ⟨_, _, _, other⟩ | ⟨_, refused, same⟩)
    · rcases ServerFinal.parse_error_cases unread with other | other
      · cases other
      · cases other
    · cases other
    · cases same
      exact refused
  · intro refused
    exact .inr (.inr ⟨value, refused, rfl⟩)

/-- A server is unproven where it signs with other octets than those awaited. -/
theorem settle_eq_unprovenServer_iff :
    c.settle serverFinal = .error .unprovenServer ↔ ∃ octets,
      ServerFinal.parse serverFinal = .ok (.signature octets) ∧ octets ≠ c.serverSignature := by
  rw [settle_eq_error_iff]
  constructor
  · rintro (unread | ⟨octets, signed, differ, -⟩ | ⟨_, _, other⟩)
    · rcases ServerFinal.parse_error_cases unread with other | other
      · cases other
      · cases other
    · exact ⟨octets, signed, differ⟩
    · cases other
  · intro given
    obtain ⟨octets, signed, differ⟩ := given
    exact .inr (.inl ⟨octets, signed, differ, rfl⟩)

/-- There is no other outcome. -/
theorem settle_cases (c : AwaitingFinal) (serverFinal : String) :
    c.settle serverFinal = .ok () ∨
      (∃ value, c.settle serverFinal = .error (.rejected value)) ∨
      c.settle serverFinal = .error .unprovenServer ∨
      c.settle serverFinal = .error (.missing .verdict) ∨
      c.settle serverFinal = .error (.invalid .verdict) := by
  cases settled : c.settle serverFinal with
  | ok => exact .inl rfl
  | error error =>
    rcases settle_eq_error_iff.mp settled with unread | ⟨_, _, _, rfl⟩ | ⟨value, _, rfl⟩
    · rcases ServerFinal.parse_error_cases unread with rfl | rfl
      · exact .inr (.inr (.inr (.inl rfl)))
      · exact .inr (.inr (.inr (.inr rfl)))
    · exact .inr (.inr (.inl rfl))
    · exact .inr (.inl ⟨value, rfl⟩)

end AwaitingFinal

variable {c : Client} {serverFirst final : String} {awaiting : AwaitingFinal}

theorem length_serverSignature (answered : c.first.1.answer serverFirst = .ok (awaiting, final)) :
    awaiting.serverSignature.length = c.algorithm.digestSize := by
  obtain ⟨first, -, -, same⟩ := AwaitingFirst.answer_eq_ok_iff.mp answered
  cases same
  exact c.algorithm.length_hmacParts _ _

/-- **A client is settled by exactly the server's signature.** The signature that it awaits is as long
as a digest. A text settles the client where it is that signature in base 64, with any of the padding
left off, up to the first comma; it is a refusal where it is one, up to the first comma; other octets
in the place of the signature leave the server unproven; and every other text is malformed. -/
theorem settle_exact (answered : c.first.1.answer serverFirst = .ok (awaiting, final)) :
    awaiting.serverSignature.length = c.algorithm.digestSize ∧ ∀ serverFinal,
      (awaiting.settle serverFinal = .ok () ↔ ∃ written tail : String,
        Base64.Spells (utf8 written) awaiting.serverSignature ∧
        (tail = "" ∨ ∃ more, tail = "," ++ more) ∧ serverFinal = "v=" ++ written ++ tail) ∧
      (∀ value, awaiting.settle serverFinal = .error (.rejected value) ↔ ∃ tail : String,
        ',' ∉ value.toList ∧ (tail = "" ∨ ∃ more, tail = "," ++ more) ∧
        serverFinal = "e=" ++ value ++ tail) ∧
      (awaiting.settle serverFinal = .error .unprovenServer ↔ ∃ octets,
        octets ≠ awaiting.serverSignature ∧ ∃ written tail : String, ',' ∉ written.toList ∧
        (tail = "" ∨ ∃ more, tail = "," ++ more) ∧ serverFinal = "v=" ++ written ++ tail ∧
        Base64.decode? (utf8 written) = some octets) ∧
      (awaiting.settle serverFinal = .ok () ∨
        (∃ value, awaiting.settle serverFinal = .error (.rejected value)) ∨
        awaiting.settle serverFinal = .error .unprovenServer ∨
        awaiting.settle serverFinal = .error (.missing .verdict) ∨
        awaiting.settle serverFinal = .error (.invalid .verdict)) := by
  refine ⟨length_serverSignature answered, fun serverFinal => ?_⟩
  simp only [← tail_toList_iff, ← ServerFinal.parse_eq_signature_iff]
  refine ⟨AwaitingFinal.settle_eq_ok_iff_spells, fun _ => AwaitingFinal.settle_eq_rejected_iff, ?_,
    awaiting.settle_cases serverFinal⟩
  rw [AwaitingFinal.settle_eq_unprovenServer_iff]
  exact exists_congr fun octets => and_comm

/-- A signature without its padding and a refusal behind it, a refusal with the signature behind it,
and no octets in the place of the signature. -/
theorem settle_exact_of_cut_padding :
    let c := Client.start .sha1 "user" "pencil" none ⟨"client", by decide⟩
    let serverFirst := "r=clientserver,s=AQI=,i=1"
    let offer : ServerFirst := ⟨"clientserver", [1, 2], ⟨1, by decide, by decide⟩⟩
    let final := ClientFinal.text (c.first.1.withoutProof "clientserver")
      (c.first.1.evidence serverFirst offer).clientProof
    let awaiting : AwaitingFinal := ⟨[170, 21, 182, 226, 184, 67, 26, 70, 1, 14, 81, 234, 112, 199,
      178, 46, 19, 3, 91, 200]⟩
    c.first.1.answer serverFirst = .ok (awaiting, final) ∧
      awaiting.serverSignature.length = c.algorithm.digestSize ∧
      awaiting.settle "v=qhW24rhDGkYBDlHqcMeyLhMDW8g,e=other-error" = .ok () ∧
      awaiting.settle "e=,v=qhW24rhDGkYBDlHqcMeyLhMDW8g=" = .error (.rejected "") ∧
      awaiting.settle "v=,v=qhW24rhDGkYBDlHqcMeyLhMDW8g=" = .error .unprovenServer := by
  intro c serverFirst offer final awaiting
  have signed : (c.first.1.evidence serverFirst offer).serverSignature = awaiting.serverSignature := by
    decide +kernel
  have answered : c.first.1.answer serverFirst = .ok (awaiting, final) :=
    AwaitingFirst.answer_eq_ok_iff.mpr ⟨offer, by decide, by decide, by rw [signed]⟩
  obtain ⟨full, outcomes⟩ := settle_exact answered
  refine ⟨answered, full, (outcomes _).1.mpr ?_, ((outcomes _).2.1 "").mpr ?_,
    (outcomes _).2.2.1.mpr ?_⟩
  · exact ⟨"qhW24rhDGkYBDlHqcMeyLhMDW8g", _, ⟨1, by decide⟩, .inr ⟨"e=other-error", rfl⟩, by decide⟩
  · exact ⟨_, by decide, .inr ⟨"v=qhW24rhDGkYBDlHqcMeyLhMDW8g=", rfl⟩, by decide⟩
  · exact ⟨[], by decide, "", _, by decide, .inr ⟨"v=qhW24rhDGkYBDlHqcMeyLhMDW8g=", rfl⟩, by decide,
      by decide⟩

end Scram.Client
