import Scram.Algorithm
import Scram.Cut

/-!
# Mechanisms

A hash algorithm, with channel binding required or refused. Mechanisms are negotiated by name,
and only the exact name means the mechanism.
-/

namespace Scram

structure Mechanism where
  algorithm : Algorithm
  /-- Whether channel binding is required. Where it is not, it is refused. -/
  plus : Bool
  deriving DecidableEq, Repr

namespace Mechanism

def name (m : Mechanism) : String :=
  "SCRAM-" ++ m.algorithm.name ++ if m.plus then "-PLUS" else ""

/-- What stands in a mechanism's name behind its beginning, as the name of a hash algorithm and
whether channel binding is required. -/
def splitBinding (rest : List Char) : String × Bool :=
  match Cut.beforeEnd? "-PLUS".toList rest with
  | some hash => (String.ofList hash, true)
  | none => (String.ofList rest, false)

/-- Finds a mechanism by its name. Algorithms are known by other names besides their own, but no
mechanism is. -/
def ofName (name : String) : Except Error Mechanism := do
  let rest ← expect (Cut.after? "SCRAM-".toList name.toList) (.unsupportedAlgorithm name)
  let (hash, plus) := splitBinding rest
  let algorithm ← (Algorithm.ofName hash).mapError fun _ => .unsupportedAlgorithm name
  ensure (algorithm.name = hash) (.unsupportedAlgorithm name)
  return ⟨algorithm, plus⟩

/-- Whether an exchange of this mechanism may have this kind of channel binding. Where a
mechanism with channel binding is offered as well, a client that takes the server to have none
has been lied to. -/
def permit (m : Mechanism) (kind : BindingKind) (advertisesBinding : Bool) : Except Error Unit :=
  match m.plus, kind with
  | true, .tlsUnique | true, .tlsServerEndPoint => .ok ()
  | false, .unsupported => .ok ()
  | false, .unused => ensure (advertisesBinding = false) .bindingDowngrade
  | _, kind => .error (.unsupportedBinding kind.name)

end Mechanism

end Scram
