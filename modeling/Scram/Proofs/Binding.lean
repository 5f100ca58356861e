import Scram.Proofs.Client.Steps
import Scram.Proofs.Server.Steps

/-!
# What a binding value pins down

A binding value is a header with the transport's data right behind it, and no length says where the
one ends. It still has one reading: no header begins another, whatever identity is asked for and
whatever the data looks like (`bindingValue_eq_iff`). So a server that compares the value of a client
with its own compares everything: the flag and the identity that the client asked for, as they
arrived, and the data of the two ends of the transport (`binding_pins_header_and_data`).

What a client sends is the value in base 64, and the server reads it before it compares. That opens no
second way to the same value: what passes is the written form of the expected value, with its padding
or with less of it (`checkBinding_exact`).

The client's header comes from its own settings and may have an identity that no reader accepts; the
server's is cut from a message of whatever origin.
-/

namespace Scram

/-! ## The written value -/

/-- What passes is a form of the expected value. -/
theorem checkBinding_eq_ok_iff_spells {declared expected : Bytes} :
    checkBinding declared expected = .ok () ↔ Base64.Spells declared expected :=
  checkBinding_eq_ok_iff.trans Base64.decode?_eq_some_iff

/-- What does not pass is a mismatch: the check has no other error. -/
theorem checkBinding_eq_bindingMismatch_iff {declared expected : Bytes} :
    checkBinding declared expected = .error .bindingMismatch ↔
      checkBinding declared expected ≠ .ok () := by
  unfold checkBinding ensure
  split <;> simp

/-- **The check passes exactly the forms of the expected value**, for which any of the padding may be
left off, and nothing else but the padding may differ. Every other value, be it in base 64 or not, is
a mismatch. -/
theorem checkBinding_exact (declared expected : Bytes) :
    (checkBinding declared expected = .ok () ↔ ∃ cut,
      declared ++ List.replicate cut Base64.pad = Base64.encode expected) ∧
    (checkBinding declared expected = .error .bindingMismatch ↔ ¬∃ cut,
      declared ++ List.replicate cut Base64.pad = Base64.encode expected) ∧
    ∀ other, checkBinding declared expected = .ok () → checkBinding other expected = .ok () →
      ∃ stem j k, Base64.pad ∉ stem ∧ declared = stem ++ List.replicate j Base64.pad ∧
        other = stem ++ List.replicate k Base64.pad := by
  refine ⟨checkBinding_eq_ok_iff_spells, ?_, ?_⟩
  · exact checkBinding_eq_bindingMismatch_iff.trans (not_congr checkBinding_eq_ok_iff_spells)
  · intro other passed otherPassed
    exact (checkBinding_eq_ok_iff_spells.mp passed).stem
      (checkBinding_eq_ok_iff_spells.mp otherPassed)

/-- One value without its padding, with too much of it, and with a bit set that no octet uses. -/
example : checkBinding (utf8 "biwsYQ") (utf8 "n,,a") = .ok () ∧
    checkBinding (utf8 "biwsYQ===") (utf8 "n,,a") = .error .bindingMismatch ∧
    checkBinding (utf8 "biwsYR==") (utf8 "n,,a") = .error .bindingMismatch := by decide

/-! ## The value -/

/-- **A binding value has one reading.** -/
theorem bindingValue_eq_iff {kind kind' : BindingKind} {authzid authzid' : Option String}
    {data data' : Option Bytes} :
    bindingValue (ClientFirst.headerText kind.flag authzid) kind data =
        bindingValue (ClientFirst.headerText kind'.flag authzid') kind' data' ↔
      kind = kind' ∧ authzid = authzid' ∧ (kind.isBound → data.getD [] = data'.getD []) := by
  constructor
  · intro same
    obtain ⟨flags, authzids, behind⟩ := ClientFirst.headerText_append_inj
      (Client.flagWellFormed kind) (Client.flagWellFormed kind') same
    obtain rfl := BindingKind.flag_injective flags
    refine ⟨rfl, authzids, ?_⟩
    intro bound
    rwa [if_pos bound, if_pos bound] at behind
  · intro given
    obtain ⟨rfl, rfl, data⟩ := given
    unfold bindingValue
    cases bound : kind.isBound with
    | false => rfl
    | true => rw [data bound]

namespace Client

variable {s : Server} {opening : Bytes} {first : ClientFirst} {credentials : Credentials}
  {e : Exchange}

/-- The client's value against that of an exchange which some first message has begun. -/
theorem binding_eq_bindingValue_iff (c : Client) (h : s.Begins opening first credentials e) :
    c.first.1.binding = e.bindingValue ↔
      e.kind = c.kind ∧ first.authzid = c.authzid ∧
        (c.kind.isBound → e.bindingData = some c.bindingData) := by
  have values : c.first.1.binding = e.bindingValue ↔
      bindingValue (ClientFirst.headerText c.kind.flag c.authzid) c.kind (some c.bindingData) =
        bindingValue (ClientFirst.headerText e.kind.flag first.authzid) e.kind e.bindingData := by
    rw [← h.header_eq]
    rfl
  rw [values, bindingValue_eq_iff]
  constructor
  · intro given
    obtain ⟨kinds, authzids, same⟩ := given
    refine ⟨kinds.symm, authzids.symm, ?_⟩
    intro bound
    obtain ⟨octets, found⟩ := Option.isSome_iff_exists.mp (h.supplied (kinds ▸ bound))
    have octetsEq := same bound
    rw [h.bindingData, if_pos (kinds ▸ bound), found] at octetsEq ⊢
    exact congrArg some octetsEq.symm
  · intro given
    obtain ⟨kinds, authzids, same⟩ := given
    refine ⟨kinds.symm, authzids.symm, ?_⟩
    intro bound
    rw [same bound]

/-- The header that a client wrote is the one received where the flag and the identity are. -/
theorem header_eq_iff (c : Client) (h : s.Begins opening first credentials e) :
    first.header = c.header ↔ e.kind = c.kind ∧ first.authzid = c.authzid := by
  have received : first.header = ClientFirst.headerText e.kind.flag first.authzid := by
    rw [h.wellFormed.header_eq, h.flag]
  constructor
  · intro same
    rw [received] at same
    obtain ⟨flags, authzids, -⟩ := ClientFirst.headerText_append_inj (flagWellFormed e.kind)
      (flagWellFormed c.kind) (congrArg (utf8 · ++ []) same)
    exact ⟨BindingKind.flag_injective flags, authzids⟩
  · intro given
    obtain ⟨kinds, authzids⟩ := given
    rw [received, kinds, authzids]
    rfl

/-- **A binding value pins the header and the data.** Against a server that has begun an exchange with
a first message of whatever origin, the client's value is the one expected exactly when the header
arrived octet for octet as the client wrote it and, for a bound kind, the server has the client's
data. Where the client's value arrives as it was sent, any final message that carries it is refused
for its binding exactly when the flag, the identity asked for or the data are others. -/
theorem binding_pins_header_and_data (c : Client) (fresh : s.state = .awaitingFirst)
    (begun : (s.receive opening).server.state = .awaitingFinal e) :
    ∃ first, ClientFirst.ofOctets opening = .ok first ∧
      opening = utf8 first.header ++ utf8 first.bare ∧
      (c.first.1.binding = e.bindingValue ↔
        first.header = c.header ∧ (c.kind.isBound → e.bindingData = some c.bindingData)) ∧
      ∀ message final, ClientFinal.parse message = .ok final →
        final.binding = Base64.encode c.first.1.binding →
        (((s.receive opening).server.receive message).result = .error .bindingMismatch ↔
          first.flag ≠ c.kind.flag ∨ first.authzid ≠ c.authzid ∨
            c.kind.isBound ∧ e.bindingData ≠ some c.bindingData) := by
  obtain ⟨first, credentials, h⟩ := Server.takeFirst_result_eq_ok_iff_begins.mp
    (Server.takeFirst_of_receive_state fresh begun)
  have values := c.binding_eq_bindingValue_iff h
  refine ⟨first, h.parsed, h.text, ?_, ?_⟩
  · rw [values, c.header_eq_iff h, and_assoc]
  · intro message final read same
    -- the check compares the values, and these differ where one of their three parts does
    have flags : first.flag = c.kind.flag ↔ e.kind = c.kind := by
      rw [h.flag]
      exact ⟨BindingKind.flag_injective, congrArg _⟩
    have expected : Base64.decode? final.binding = some e.bindingValue ↔
        c.first.1.binding = e.bindingValue := by
      rw [same, Base64.decode?_encode, Option.some.injEq]
    rw [Server.receive_eq_bindingMismatch_iff begun read, ne_eq, expected, values, ← flags,
      Classical.not_and_iff_not_or_not, Classical.not_and_iff_not_or_not, Classical.not_imp]

/-- An identity put into the header on its way, where the client's data reads like it. -/
theorem binding_pins_of_altered_header :
    let c := (Client.start .sha256 "user" "pencil" none ⟨"client", by decide⟩).withBinding
      .tlsUnique (utf8 "a=admin,")
    let credentials : Credentials := ⟨[7], [1, 2], Policy.standard.minIterations⟩
    let s := (Server.start ⟨.sha256, true⟩ (fun _ => some credentials) "server").withBinding
      fun _ => some []
    let opening := utf8 "p=tls-unique,a=admin,n=user,r=client"
    let received : ClientFirst := ⟨"p=tls-unique,a=admin,", .required "tls-unique", some "admin",
      "n=user,r=client", none, "user", "client", none⟩
    let e := s.exchange received .tlsUnique (some []) credentials
    s.state = .awaitingFirst ∧ (s.receive opening).server.state = .awaitingFinal e ∧
      ∃ first, ClientFirst.ofOctets opening = .ok first ∧
        opening = utf8 first.header ++ utf8 first.bare ∧
        (c.first.1.binding = e.bindingValue ↔
          first.header = c.header ∧ (c.kind.isBound → e.bindingData = some c.bindingData)) ∧
        ∀ message final, ClientFinal.parse message = .ok final →
          final.binding = Base64.encode c.first.1.binding →
          (((s.receive opening).server.receive message).result = .error .bindingMismatch ↔
            first.flag ≠ c.kind.flag ∨ first.authzid ≠ c.authzid ∨
              c.kind.isBound ∧ e.bindingData ≠ some c.bindingData) :=
  ⟨rfl, by rfl, binding_pins_header_and_data _ rfl (by rfl)⟩

end Client

end Scram
