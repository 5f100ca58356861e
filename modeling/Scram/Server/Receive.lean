import Scram.Message.ClientFinal
import Scram.Message.ServerFinal
import Scram.Message.ServerFirst
import Scram.Server.Basic

/-!
# Receiving messages

What a server does with a message. The order of the checks is part of the protocol's security:
the channel binding is settled before anyone's credentials are looked up, and who may act as
whom is asked only after the proof.
-/

namespace Scram.Server

/-! ## The first message -/

/-- Looks up the credentials of a user. An empty password is as good as no user, and credentials
below the policy's iteration count are refused. -/
def lookUp (s : Server) (username : String) : Audit Credentials := do
  Audit.emit (.lookedUp username)
  match s.credentials username with
  | none => Audit.fail .unknownUser
  | some credentials =>
    if credentials.saltedPassword = [] then
      Audit.note (.emptyPassword username)
      Audit.fail .unknownUser
    else if credentials.iterations.toNat < s.policy.minIterations.toNat then
      Audit.note (.fewIterations username credentials.iterations s.policy.minIterations)
      Audit.fail (.fewIterations credentials.iterations.toNat s.policy.minIterations.toNat)
    else
      return credentials

/-- The exchange that a client's first message begins, when the user has these credentials. -/
def exchange (s : Server) (first : ClientFirst) (kind : BindingKind) (bindingData : Option Bytes)
    (credentials : Credentials) : Exchange :=
  let a := s.mechanism.algorithm
  let nonce := first.nonce ++ s.nonce
  let clientKey := a.clientKey credentials.saltedPassword
  { header := first.header
    kind, bindingData
    username := first.username
    authzid := first.authzid.getD first.username
    clientFirstBare := first.bare
    nonce
    serverFirst := ServerFirst.text ⟨nonce, credentials.salt, credentials.iterations⟩
    saltedPassword := credentials.saltedPassword
    clientKey
    storedKey := a.storedKey clientKey }

/-- Takes a client's first message. -/
def takeFirst (s : Server) (message : Bytes) : Audit Exchange := do
  let first ← Audit.of (ClientFirst.ofOctets message)
  let kind ← Audit.of (BindingKind.ofFlag first.flag)
  Audit.of (s.mechanism.permit kind s.policy.advertisesBinding)
  let bindingData ← s.binding.resolve kind
  let credentials ← s.lookUp first.username
  Audit.note (.begun s.mechanism first.username kind)
  return s.exchange first kind bindingData credentials

/-! ## The final message -/

/-- The checks that a client's final message must pass before anything is decided about it:
the channel binding, the nonce, and the proof, in this order. -/
def checkFinal (s : Server) (e : Exchange) (final : ClientFinal) : Except Error Unit := do
  checkBinding final.binding e.bindingValue
  ensure (final.nonce = utf8 e.nonce) .nonceMismatch
  let proof := s.mechanism.algorithm.clientProof e.clientKey e.storedKey
    (e.transcript final.withoutProof)
  ensure (Base64.decode? final.proof = some proof) .wrongProof

/-- Asks whether the user of an exchange may act as the identity asked for. -/
def askAuthorization (s : Server) (e : Exchange) : Audit String := do
  Audit.emit (.askedAuthorization e.username e.authzid)
  match s.authorize e.username e.authzid with
  | some identity => return identity
  | none => Audit.fail (.notAuthorized e.username e.authzid)

/-- Whether a message that should be a final one is a first one instead. What begins as a final
message does is not read for it. -/
def isFirst (message : Bytes) : Bool :=
  Cut.after? (utf8 "c=") message = none ∧ (ClientFirst.ofOctets message).isOk

/-- Takes a client's final message, and answers the identity and the reply. A first message that
comes again is out of sequence. -/
def takeFinal (s : Server) (e : Exchange) (message : Bytes) : Audit (String × String) := do
  Audit.of (ensure (¬isFirst message) (.outOfSequence .awaitingFinal))
  let final ← Audit.of (ClientFinal.parse message)
  Audit.of (s.checkFinal e final)
  let identity ← s.askAuthorization e
  let a := s.mechanism.algorithm
  let signature := a.hmacParts (a.serverKey e.saltedPassword) (e.transcript final.withoutProof)
  return (identity, ServerFinal.signatureText signature)

/-! ## Any message -/

/-- Takes a message in whatever phase, and answers the next state and the reply. -/
def take (s : Server) (message : Bytes) : Audit (State × String) :=
  match s.state with
  | .awaitingFirst => do
    let e ← s.takeFirst message
    return (.awaitingFinal e, e.serverFirst)
  | .awaitingFinal e => do
    let (identity, reply) ← s.takeFinal e message
    Audit.note (.authenticated s.mechanism identity)
    return (.finished identity, reply)
  | .finished _ => Audit.fail (.outOfSequence .finished)
  | .aborted => Audit.fail (.outOfSequence .aborted)

/-- What comes of a message. -/
structure Answer where
  /-- The server afterwards. -/
  server : Server
  /-- What is sent back, or why the message is refused. -/
  result : Except Error String
  events : List Event

/-- Receives a message. A refusal is noted down and ends the exchange. -/
def receive (s : Server) (message : Bytes) : Answer :=
  let audit := s.take message
  match audit.result with
  | .ok (state, reply) => ⟨{ s with state }, .ok reply, audit.events⟩
  | .error error =>
    { server := { s with state := s.state.refused }
      result := .error error
      events := audit.events ++ [.noted (.failed s.mechanism error)] }

end Scram.Server
