import Scram.Octets

/-!
# Kinds of channel binding

What a client says about channel binding in the flag that opens its first message, the kind of
binding that is meant, and where the transport's binding data comes from.
-/

namespace Scram

/-- The flag at the head of a client's first message. -/
inductive BindingFlag where
  /-- The client has no channel binding. -/
  | unsupported
  /-- The client has channel binding and takes the server to have none. -/
  | unused
  /-- The client requires the channel binding of this name. -/
  | required (name : String)
  deriving DecidableEq, Repr

/-- The flag as it is written. -/
def BindingFlag.text : BindingFlag → String
  | unsupported => "n"
  | unused => "y"
  | required name => "p=" ++ name

/-- The kinds of channel binding that an exchange can have. -/
inductive BindingKind where
  | unsupported
  | unused
  /-- The first Finished message of the handshake below. -/
  | tlsUnique
  /-- The hash of the server's certificate. -/
  | tlsServerEndPoint
  deriving DecidableEq, Repr

namespace BindingKind

/-- How the kind is called in messages to people and in errors. -/
def name : BindingKind → String
  | unsupported => "n"
  | unused => "y"
  | tlsUnique => "tls-unique"
  | tlsServerEndPoint => "tls-server-end-point"

/-- Whether the kind ties the exchange to data of the transport. -/
def isBound : BindingKind → Bool
  | unsupported | unused => false
  | tlsUnique | tlsServerEndPoint => true

/-- The flag with which a client asks for the kind. -/
def flag : BindingKind → BindingFlag
  | unsupported => .unsupported
  | unused => .unused
  | tlsUnique => .required "tls-unique"
  | tlsServerEndPoint => .required "tls-server-end-point"

end BindingKind

/-- Where binding data comes from: for a kind the data of this end of the transport, if the
transport has any of that kind. -/
abbrev BindingSource := BindingKind → Option Bytes

/-- A transport without channel binding. -/
def BindingSource.absent : BindingSource := fun _ => none

/-- The binding data of a TLS session. -/
structure TlsSession where
  unique : Option Bytes
  serverEndPoint : Option Bytes

/-- A session answers for the kinds that have data. -/
def TlsSession.source (session : TlsSession) : BindingSource
  | .unsupported | .unused => none
  | .tlsUnique => session.unique
  | .tlsServerEndPoint => session.serverEndPoint

end Scram
