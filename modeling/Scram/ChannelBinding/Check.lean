import Scram.Audit
import Scram.Base64

/-!
# Checking a channel binding

The client's final message repeats the header of its first one, followed by the binding data of
its end of the transport. The server puts together the same value from what it received and
from its own end, and compares.
-/

namespace Scram

/-- The kind of binding that a flag asks for. -/
def BindingKind.ofFlag : BindingFlag → Except Error BindingKind
  | .unsupported => .ok .unsupported
  | .unused => .ok .unused
  | .required name =>
    if name = "tls-unique" then .ok .tlsUnique
    else if name = "tls-server-end-point" then .ok .tlsServerEndPoint
    else .error (.unsupportedBinding name)

/-- Every kind is told from the flag that announces it. -/
@[simp] theorem BindingKind.ofFlag_flag (kind : BindingKind) : ofFlag kind.flag = .ok kind := by
  cases kind <;> rfl

/-- The binding data that a kind needs from the transport, which is none where it is not
bound. The transport is asked only where it is. -/
def BindingSource.resolve (source : BindingSource) (kind : BindingKind) : Audit (Option Bytes) := do
  if kind.isBound then
    Audit.emit (.askedBinding kind)
    match source kind with
    | some data => return some data
    | none => Audit.fail (.bindingUnavailable kind)
  else
    return none

/-- The value that both ends must agree on: the header of the client's first message, and the
binding data where the kind is bound. -/
def bindingValue (header : String) (kind : BindingKind) (data : Option Bytes) : Bytes :=
  utf8 header ++ if kind.isBound then data.getD [] else []

/-- Compares the written value of a client with the value expected of it. -/
def checkBinding (declared expected : Bytes) : Except Error Unit :=
  ensure (Base64.decode? declared = some expected) .bindingMismatch

end Scram
