import Scram.ChannelBinding.Check
import Scram.KeyChain
import Scram.Message.ClientFinal
import Scram.Message.ClientFirst
import Scram.Message.ServerFinal
import Scram.Message.ServerFirst

/-!
# Clients

A client goes through its exchange by giving itself up for what it awaits next: `Client.first`
answers what awaits the server's first message, which answers what awaits the final one.
-/

namespace Scram

structure Client where
  algorithm : Algorithm
  authcid : String
  password : String
  /-- The identity to act as, where it is not the user's own. -/
  authzid : Option String
  nonce : Nonce
  kind : BindingKind
  /-- The binding data of the client's end, which only a bound kind uses. -/
  bindingData : Bytes

namespace Client

/-- A client without channel binding. -/
def start (algorithm : Algorithm) (authcid password : String) (authzid : Option String)
    (nonce : Nonce) : Client :=
  ⟨algorithm, authcid, password, authzid, nonce, .unsupported, []⟩

def withBinding (c : Client) (kind : BindingKind) (data : Bytes) : Client :=
  { c with kind, bindingData := data }

/-- A client that awaits the server's first message. -/
structure AwaitingFirst where
  algorithm : Algorithm
  password : String
  /-- The channel binding value of the client's end. -/
  binding : Bytes
  nonce : Nonce
  clientFirstBare : String

/-- A client that awaits the server's final message. -/
structure AwaitingFinal where
  /-- The signature by which the server proves itself. -/
  serverSignature : Bytes

def header (c : Client) : String := ClientFirst.headerText c.kind.flag c.authzid

def bare (c : Client) : String := ClientFirst.bareText c.authcid c.nonce.text

/-- The client's first message. -/
def first (c : Client) : AwaitingFirst × String :=
  ({ algorithm := c.algorithm
     password := c.password
     binding := bindingValue c.header c.kind (some c.bindingData)
     nonce := c.nonce
     clientFirstBare := c.bare },
   c.header ++ c.bare)

namespace AwaitingFirst

/-- The client's final message, without its proof, for the nonce of the exchange. -/
def withoutProof (c : AwaitingFirst) (nonce : String) : String :=
  ClientFinal.withoutProofText c.binding nonce

/-- Whether a nonce extends the client's own, by at least one character. -/
def extended (c : AwaitingFirst) (nonce : String) : Bool :=
  match Cut.after? c.nonce.text.toList nonce.toList with
  | some added => added ≠ []
  | none => false

/-- Answers the server's first message with the client's final one. -/
def answer (c : AwaitingFirst) (serverFirst : String) : Except Error (AwaitingFinal × String) := do
  let first ← ServerFirst.parse serverFirst
  ensure (c.extended first.nonce) (.malformed .foreignNonce)
  let saltedPassword := c.algorithm.saltText c.password first.salt first.iterations
  let withoutProof := c.withoutProof first.nonce
  let evidence := c.algorithm.evidence saltedPassword
    (transcript (utf8 c.clientFirstBare) (utf8 serverFirst) (utf8 withoutProof))
  return (⟨evidence.serverSignature⟩, ClientFinal.text withoutProof evidence.clientProof)

end AwaitingFirst

/-- Settles the exchange by the server's final message: only the signature proves the server. -/
def AwaitingFinal.settle (c : AwaitingFinal) (serverFinal : String) : Except Error Unit := do
  match ← ServerFinal.parse serverFinal with
  | .signature octets => ensure (octets = c.serverSignature) .unprovenServer
  | .refusal value => .error (.rejected value)

end Client

end Scram
