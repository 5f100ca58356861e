import Scram.IterationCount

/-!
# Policies

What a server asks of the exchanges it accepts.
-/

namespace Scram

structure Policy where
  /-- Credentials hashed less often are refused. -/
  minIterations : IterationCount
  /-- Whether a mechanism with channel binding is offered on the same connection. -/
  advertisesBinding : Bool
  deriving DecidableEq, Repr

/-- Credentials are hashed at least 4096 times, and no channel binding is offered. -/
def Policy.standard : Policy := ⟨⟨4096, by decide, by decide⟩, false⟩

instance : Inhabited Policy := ⟨.standard⟩

end Scram
