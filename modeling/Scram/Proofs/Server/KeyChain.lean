import Scram.Proofs.KeyChain
import Scram.Proofs.Server.Steps

/-!
# One key chain at both ends

A client derives its proof and the signature that it will ask of the server at one time, from the
salted password and all that is signed (`Algorithm.evidence`). A server derives them apart: the
client's key and its hash with the first message, when there is not yet anything to sign; the proof
to compare with from these two alone; its own signature last, once the proof is accepted.
`key_chains_agree` says that the two derivations come to the same, that every link is as long as a
digest, and that a server's comparison is the check which the standard asks for: an accepted proof is
the client's key when the signature is taken off it, and its hash is the stored key.

The lengths are what this rests on. An exclusive or is as long as the shorter of its strings: a link
that was too short would make a proof of a part of the key only, and of a proof that is too long the
end would not be looked at.

That no one makes an accepted proof without the client's key is not said here. It is what the hash
functions are trusted for.
-/

namespace Scram.Server

variable {s : Server} {first : ClientFirst} {kind : BindingKind} {data : Option Bytes}
  {stored : Credentials}

/-- The values that a server derives one by one are those of the chain. -/
theorem evidence_exchange (s : Server) (first : ClientFirst) (kind : BindingKind)
    (data : Option Bytes) (stored : Credentials) (parts : List Bytes) :
    let a := s.mechanism.algorithm
    let e := s.exchange first kind data stored
    a.evidence stored.saltedPassword parts =
      ⟨a.clientProof e.clientKey e.storedKey parts,
        a.hmacParts (a.serverKey e.saltedPassword) parts⟩ := rfl

theorem length_clientKey_exchange :
    (s.exchange first kind data stored).clientKey.length = s.mechanism.algorithm.digestSize :=
  Algorithm.length_clientKey _ _

/-- The right proof is as long as a digest and is the client's key when the signature is taken off it,
so that its hash is then the stored key. -/
theorem eq_clientProof_exchange_iff {parts : List Bytes} {proof : Bytes} :
    let a := s.mechanism.algorithm
    let e := s.exchange first kind data stored
    let unmasked := xorOctets proof (a.hmacParts e.storedKey parts)
    proof = a.clientProof e.clientKey e.storedKey parts ↔
      proof.length = a.digestSize ∧ unmasked = e.clientKey ∧ a.hash unmasked = e.storedKey := by
  intro a e unmasked
  have hashed (key : unmasked = e.clientKey) : a.hash unmasked = e.storedKey := by
    rw [key]
    rfl
  rw [Algorithm.eq_clientProof_iff _ length_clientKey_exchange]
  constructor
  · rintro ⟨length, key⟩
    exact ⟨length, key, hashed key⟩
  · rintro ⟨length, key, -⟩
    exact ⟨length, key⟩

/-- **Both ends have one key chain, and no octet of it is lost.** Take any server, and the exchange
that it begins for any first message and any credentials. Over any signed parts every key, signature
and proof is as long as a digest; the client's evidence is what the server derives from its record;
and the proof of it is known by its length and by the client's key and the stored key, which it gives
when the client's signature is taken off. A final message is accepted exactly with this proof, and
answered with the signature of the same evidence; so a proof that decodes passes the server's checks
exactly if binding and nonce are right and it passes the check against the stored key. -/
theorem key_chains_agree (s : Server) (first : ClientFirst) (kind : BindingKind)
    (data : Option Bytes) (stored : Credentials) :
    let a := s.mechanism.algorithm
    let e := s.exchange first kind data stored
    let evidence := a.evidence stored.saltedPassword
    let signature := a.hmacParts e.storedKey
    (a.digestSize = if a = .sha1 then 20 else if a = .sha256 then 32 else 64) ∧
    (∀ parts, e.clientKey.length = a.digestSize ∧ e.storedKey.length = a.digestSize ∧
      (signature parts).length = a.digestSize ∧
      (evidence parts).clientProof.length = a.digestSize ∧
      (evidence parts).serverSignature.length = a.digestSize ∧
      (evidence parts).clientProof = xorOctets e.clientKey (signature parts) ∧
      (evidence parts).serverSignature = a.hmacParts (a.serverKey e.saltedPassword) parts) ∧
    (∀ parts proof, proof = (evidence parts).clientProof ↔
      proof.length = a.digestSize ∧ xorOctets proof (signature parts) = e.clientKey ∧
      a.hash (xorOctets proof (signature parts)) = e.storedKey) ∧
    (∀ message identity reply,
      (s.takeFinal e message).result = .ok (identity, reply) ↔ ∃ final,
        let signed := e.transcript final.withoutProof
        ClientFinal.parse message = .ok final ∧
        Base64.decode? final.binding = some e.bindingValue ∧ final.nonce = utf8 e.nonce ∧
        Base64.decode? final.proof = some (evidence signed).clientProof ∧
        s.authorize e.username e.authzid = some identity ∧
        reply = ServerFinal.signatureText (evidence signed).serverSignature) ∧
    ∀ final proof, Base64.decode? final.proof = some proof →
      let unmasked := xorOctets proof (signature (e.transcript final.withoutProof))
      (s.checkFinal e final = .ok () ↔
        Base64.decode? final.binding = some e.bindingValue ∧ final.nonce = utf8 e.nonce ∧
        proof.length = a.digestSize ∧ unmasked = e.clientKey ∧ a.hash unmasked = e.storedKey) := by
  intro a e evidence signature
  have derived (parts : List Bytes) : evidence parts = _ :=
    evidence_exchange s first kind data stored parts
  -- the two derivations are one by definition; what is left are the sizes and the comparison
  refine ⟨a.digestSize_eq, ?_, ?_, ?_, ?_⟩
  · intro parts
    refine ⟨length_clientKey_exchange, a.length_storedKey _, a.length_hmacParts _ _,
      a.length_clientProof_evidence _ _, ?_, ?_, ?_⟩
    · rw [derived]
      exact a.length_hmacParts _ _
    · rw [derived]
      rfl
    · rw [derived]
  · intro parts proof
    rw [derived]
    exact eq_clientProof_exchange_iff
  · intro message identity reply
    simp only [takeFinal_result_eq_ok_iff, checkFinal_eq_ok_iff, and_assoc, derived]
    rfl
  · intro final proof decoded unmasked
    have right (parts : List Bytes) : proof = a.clientProof e.clientKey e.storedKey parts ↔ _ :=
      eq_clientProof_exchange_iff
    rw [checkFinal_eq_ok_iff, decoded, Option.some.injEq, right]

/-- The exchange that is printed in RFC 5802, with the salted password of its user. -/
theorem key_chains_agree_of_example_exchange :
    let stored : Credentials :=
      ⟨[0x1d, 0x96, 0xee, 0x3a, 0x52, 0x9b, 0x5a, 0x5f, 0x9e, 0x47, 0xc0, 0x1f, 0x22, 0x9a, 0x2c, 0xb8,
        0xa6, 0xe1, 0x5f, 0x7d],
        [0x41, 0x25, 0xc2, 0x47, 0xe4, 0x3a, 0xb1, 0xe9, 0x3c, 0x6d, 0xff, 0x76],
        Policy.standard.minIterations⟩
    let s := start ⟨.sha1, false⟩ (fun _ => some stored) "3rfcNHYJY1ZVvWVs7j"
    let first : ClientFirst := ⟨"n,,", .unsupported, none, "n=user,r=fyko+d2lbbFgONRv9qkxdawL", none,
      "user", "fyko+d2lbbFgONRv9qkxdawL", none⟩
    let e := s.exchange first .unsupported none stored
    let final : ClientFinal :=
      ⟨utf8 "c=biws,r=fyko+d2lbbFgONRv9qkxdawL3rfcNHYJY1ZVvWVs7j", utf8 "biws",
        utf8 "fyko+d2lbbFgONRv9qkxdawL3rfcNHYJY1ZVvWVs7j", utf8 "v0X8v3Bz2T0CJGbJQyF0X+HI4Ts="⟩
    let proof := [0xbf, 0x45, 0xfc, 0xbf, 0x70, 0x73, 0xd9, 0x3d, 0x02, 0x24, 0x66, 0xc9, 0x43, 0x21,
      0x74, 0x5f, 0xe1, 0xc8, 0xe1, 0x3b]
    let signature := Algorithm.sha1.hmacParts e.storedKey (e.transcript final.withoutProof)
    (s.takeFirst (utf8 "n,,n=user,r=fyko+d2lbbFgONRv9qkxdawL")).result = .ok e ∧
      Base64.decode? final.proof = some proof ∧ s.checkFinal e final = .ok () ∧
      xorOctets proof signature = e.clientKey ∧
      Algorithm.sha1.hash (xorOctets proof signature) = e.storedKey := by
  intro stored s first e final proof signature
  have begun : (s.takeFirst (utf8 "n,,n=user,r=fyko+d2lbbFgONRv9qkxdawL")).result = .ok e := by
    rfl
  have decoded : Base64.decode? final.proof = some proof := by decide +kernel
  have accepted : s.checkFinal e final = .ok () :=
    checkFinal_eq_ok_iff.mpr ⟨by decide +kernel, by decide +kernel, by decide +kernel⟩
  obtain ⟨-, -, -, -, checked⟩ := key_chains_agree s first .unsupported none stored
  obtain ⟨-, -, -, key, hashed⟩ := (checked final proof decoded).mp accepted
  exact ⟨begun, decoded, accepted, key, hashed⟩

end Scram.Server
