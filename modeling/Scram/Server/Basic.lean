import Scram.ChannelBinding.Check
import Scram.KeyChain
import Scram.Message.ClientFirst
import Scram.Policy

/-!
# Servers

A server holds one exchange: its settings and collaborators, the nonce that it contributes, and
how far the exchange has come. What belongs to a phase is held with the phase, so an identity is
there exactly when the exchange is finished, and keys only while a proof is awaited.
-/

namespace Scram

/-- What is stored of a user's password. -/
structure Credentials where
  saltedPassword : Bytes
  salt : Bytes
  iterations : IterationCount
  deriving DecidableEq, Repr

/-- The credentials for a password in clear text. -/
def Credentials.ofPassword (a : Algorithm) (password : String) (salt : Bytes)
    (iterations : IterationCount) : Credentials :=
  ⟨a.saltText password salt iterations, salt, iterations⟩

/-- Whether a user may act as an identity, and then under what name. -/
abbrev Authorizer := (authcid authzid : String) → Option String

/-- Users act as themselves and as no one else. -/
def Authorizer.self : Authorizer := fun authcid authzid =>
  if authcid = authzid then some authzid else none

/-- What a server keeps between a client's two messages. -/
structure Exchange where
  /-- The header of the client's first message. -/
  header : String
  kind : BindingKind
  bindingData : Option Bytes
  username : String
  /-- The identity asked for, or else the user's own. -/
  authzid : String
  clientFirstBare : String
  /-- The client's nonce and the server's. -/
  nonce : String
  serverFirst : String
  saltedPassword : Bytes
  clientKey : Bytes
  storedKey : Bytes
  deriving DecidableEq

namespace Exchange

/-- The channel binding value that the client's final message must carry. -/
def bindingValue (e : Exchange) : Bytes := Scram.bindingValue e.header e.kind e.bindingData

/-- What both ends sign, given the client's final message without its proof. -/
def transcript (e : Exchange) (withoutProof : Bytes) : List Bytes :=
  Scram.transcript (utf8 e.clientFirstBare) (utf8 e.serverFirst) withoutProof

end Exchange

namespace Server

/-- How far an exchange has come, and what is known by then. -/
inductive State where
  | awaitingFirst
  | awaitingFinal (exchange : Exchange)
  | finished (identity : String)
  | aborted

namespace State

def phase : State → Phase
  | awaitingFirst => .awaitingFirst
  | awaitingFinal _ => .awaitingFinal
  | finished _ => .finished
  | aborted => .aborted

/-- The identity that the client is authorized as. -/
def identity? : State → Option String
  | finished identity => some identity
  | _ => none

/-- New settings do not reach into an exchange under way: it is aborted. -/
def reconfigured : State → State
  | awaitingFinal _ => aborted
  | state => state

/-- A refused message ends an exchange, unless it is finished already. -/
def refused : State → State
  | finished identity => finished identity
  | _ => aborted

end State

end Server

structure Server where
  mechanism : Mechanism
  policy : Policy
  /-- The stored credentials of a user, if there is such a user. -/
  credentials : String → Option Credentials
  authorize : Authorizer
  binding : BindingSource
  /-- What the server adds to the client's nonce. -/
  nonce : String
  state : Server.State

namespace Server

/-- A server at the start of its exchange, with the standard policy, where users act as
themselves only and the transport has no channel binding. -/
def start (mechanism : Mechanism) (credentials : String → Option Credentials) (nonce : String) :
    Server where
  mechanism := mechanism
  policy := .standard
  credentials := credentials
  authorize := .self
  binding := .absent
  nonce := nonce
  state := .awaitingFirst

def phase (s : Server) : Phase := s.state.phase

/-- The identity that the client is authorized as. -/
def identity? (s : Server) : Option String := s.state.identity?

def withPolicy (s : Server) (policy : Policy) : Server :=
  { s with policy, state := s.state.reconfigured }

def withAuthorizer (s : Server) (authorize : Authorizer) : Server :=
  { s with authorize, state := s.state.reconfigured }

def withBinding (s : Server) (binding : BindingSource) : Server :=
  { s with binding, state := s.state.reconfigured }

end Server

end Scram
