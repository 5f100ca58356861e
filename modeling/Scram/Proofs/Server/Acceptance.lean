import Scram.Proofs.Server.Steps

/-!
# What a server accepts

Over an exchange of two messages a server accepts exactly what the protocol asks for, said on the
octets as they were received and sent: `accepts_iff`. The first message is its header and its bare
part; the second is a binding that repeats the header and what the transport adds to it, the nonce
of both ends, any extensions, and the proof that the holder of the user's key makes over the bare
part, the reply and everything before the proof itself.

Both directions matter. That acceptance entails each condition is the security of the server; that
the conditions suffice is that no check is stricter than the protocol.
-/

namespace Scram.Server

/-- The proof that the holder of a salted password gives of its client key over signed octets. -/
def proofOver (a : Algorithm) (saltedPassword signed : Bytes) : Bytes :=
  let clientKey := a.hmac saltedPassword (utf8 "Client Key")
  xorOctets clientKey (a.hmac (a.hash clientKey) signed)

/-- What the protocol asks of the final message of an exchange that began with `first`, where the
transport adds `added` to the header, the user's credentials are these, and `reply` was sent. -/
def Acceptable (s : Server) (first : ClientFirst) (added : Bytes) (credentials : Credentials)
    (reply : String) (message : Bytes) : Prop :=
  ∃ binding nonce extensions proof,
    ClientFinal.WellFormed binding nonce extensions proof ∧
    message = ClientFinal.octets binding nonce extensions proof ∧
    Base64.decode? binding = some (utf8 first.header ++ added) ∧
    nonce = utf8 first.nonce ++ utf8 s.nonce ∧
    Base64.decode? proof = some (proofOver s.mechanism.algorithm credentials.saltedPassword
      (utf8 first.bare ++ comma :: (utf8 reply ++
        comma :: ClientFinal.signedOctets binding nonce extensions))) ∧
    (s.authorize first.username (first.authzid.getD first.username)).isSome

/-- The proof that a server expects is that of the holder of the salted password, over the signed
parts put together. -/
theorem clientProof_eq (a : Algorithm) (saltedPassword : Bytes) (parts : List Bytes) :
    a.clientProof (a.clientKey saltedPassword) (a.storedKey (a.clientKey saltedPassword)) parts =
      proofOver a saltedPassword parts.flatten := by
  rw [Algorithm.clientProof, Algorithm.hmacParts_eq]
  rfl

variable {s : Server} {opening : Bytes} {reply : String}

/-- The checks on a final message, in terms of the exchange's first message and credentials. -/
theorem checkFinal_exchange_eq_ok_iff {first : ClientFirst} {kind : BindingKind}
    {data : Option Bytes} {credentials : Credentials} {added : Bytes} {final : ClientFinal}
    (value : bindingValue first.header kind data = utf8 first.header ++ added) :
    s.checkFinal (s.exchange first kind data credentials) final = .ok () ↔
      Base64.decode? final.binding = some (utf8 first.header ++ added) ∧
      final.nonce = utf8 first.nonce ++ utf8 s.nonce ∧
      Base64.decode? final.proof = some (proofOver s.mechanism.algorithm credentials.saltedPassword
        (utf8 first.bare ++ comma :: (utf8 (s.exchange first kind data credentials).serverFirst ++
          comma :: final.withoutProof))) := by
  rw [checkFinal_eq_ok_iff, ← flatten_transcript, ← clientProof_eq, ← utf8_append, ← value]
  rfl

/-- **Acceptance is exactly what the protocol asks for.** A server that has answered a first message
read it as a header and a bare part, found the binding data its flag calls for and the credentials
of its user, and accepts a final message exactly when it is acceptable for these; it is then
authenticated as whom the authorizer names. -/
theorem accepts_iff (fresh : s.state = .awaitingFirst)
    (opened : (s.receive opening).result = .ok reply) :
    ∃ first added credentials, ClientFirst.ofOctets opening = .ok first ∧
      first.WellFormed ∧ opening = utf8 first.header ++ utf8 first.bare ∧
      s.binding.Adds first.flag added ∧ s.credentials first.username = some credentials ∧
      ∀ message,
        ((∃ closing, ((s.receive opening).server.receive message).result = .ok closing) ↔
          s.Acceptable first added credentials reply message) ∧
        ∀ closing, ((s.receive opening).server.receive message).result = .ok closing →
          ((s.receive opening).server.receive message).server.identity? =
            s.authorize first.username (first.authzid.getD first.username) := by
  obtain ⟨e, taken, rfl, server⟩ := exists_takeFirst_of_receive fresh opened
  obtain ⟨first, kind, data, credentials, parsed, known, -, resolved, found, rfl⟩ :=
    takeFirst_result_eq_ok_iff.mp taken
  obtain ⟨wellFormed, text⟩ := ClientFirst.ofOctets_eq_ok_iff.mp parsed
  obtain ⟨added, adds, value⟩ := exists_adds_of_resolve first.header known resolved
  refine ⟨first, added, credentials, parsed, wellFormed, text, adds,
    (lookUp_result_eq_ok_iff.mp found).1, ?_⟩
  intro message
  rw [server]
  let e := s.exchange first kind data credentials
  have waiting : { s with state := .awaitingFinal e }.state = .awaitingFinal e := rfl
  refine ⟨⟨?_, ?_⟩, ?_⟩
  · intro given
    obtain ⟨closing, answered⟩ := given
    obtain ⟨identity, passed⟩ := exists_takeFinal_of_receive waiting answered
    obtain ⟨final, read, checked, authorized, -⟩ := takeFinal_result_eq_ok_iff.mp passed
    obtain ⟨extensions, form, signed, rfl⟩ := ClientFinal.parse_eq_ok_iff.mp read
    obtain ⟨bound, nonce, proof⟩ := (checkFinal_exchange_eq_ok_iff value).mp checked
    rw [signed] at proof
    exact ⟨_, _, extensions, _, form, rfl, bound, nonce, proof, Option.isSome_of_eq_some authorized⟩
  · intro given
    obtain ⟨binding, nonce, extensions, proof, form, rfl, bound, sameNonce, proved, authorized⟩ := given
    obtain ⟨identity, authorized⟩ := Option.isSome_iff_exists.mp authorized
    -- the parts put together read back as themselves, with what stands before the proof signed
    let final : ClientFinal := ⟨ClientFinal.signedOctets binding nonce extensions, binding, nonce, proof⟩
    have read : ClientFinal.parse (ClientFinal.octets binding nonce extensions proof) = .ok final :=
      ClientFinal.parse_eq_ok_iff.mpr ⟨extensions, form, rfl, rfl⟩
    have checked : s.checkFinal e final = .ok () :=
      (checkFinal_exchange_eq_ok_iff value).mpr ⟨bound, sameNonce, proved⟩
    have passed := takeFinal_result_eq_ok_iff.mpr ⟨final, read, checked, authorized, rfl⟩
    exact ⟨_, (receive_final_of_ok waiting passed).2⟩
  · intro closing answered
    obtain ⟨identity, passed⟩ := exists_takeFinal_of_receive waiting answered
    obtain ⟨final, -, -, authorized, -⟩ := takeFinal_result_eq_ok_iff.mp passed
    rw [(receive_final_of_ok waiting passed).1]
    exact authorized.symm

/-- An exchange bound to its transport, with an identity asked for and both kinds of extension. -/
theorem accepts_iff_of_bound_opening :
    let s := (start ⟨.sha256, true⟩ (fun _ => some ⟨[7], [1, 2], Policy.standard.minIterations⟩)
      "server").withBinding fun _ => some [3, 4]
    let opening := utf8 "p=tls-unique,a=adm=2Cin,m=must,n=user,r=client,x=y"
    let reply := "r=clientserver,s=AQI=,i=4096"
    s.state = .awaitingFirst ∧ (s.receive opening).result = .ok reply ∧
      ∃ first added credentials, ClientFirst.ofOctets opening = .ok first ∧
        first.WellFormed ∧ opening = utf8 first.header ++ utf8 first.bare ∧
        s.binding.Adds first.flag added ∧ s.credentials first.username = some credentials ∧
        ∀ message,
          ((∃ closing, ((s.receive opening).server.receive message).result = .ok closing) ↔
            s.Acceptable first added credentials reply message) ∧
          ∀ closing, ((s.receive opening).server.receive message).result = .ok closing →
            ((s.receive opening).server.receive message).server.identity? =
              s.authorize first.username (first.authzid.getD first.username) :=
  ⟨rfl, by rfl, accepts_iff rfl (by rfl)⟩

end Scram.Server
