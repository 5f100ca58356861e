/-!
# Phases

How far a server's exchange has come.
-/

namespace Scram

inductive Phase where
  /-- Nothing has been accepted yet. -/
  | awaitingFirst
  /-- The first message has been answered. -/
  | awaitingFinal
  /-- The client is authenticated. -/
  | finished
  /-- A message was refused, and no other will be accepted. -/
  | aborted
  deriving DecidableEq, Repr

/-- The phase by the message it awaits, or by how it ended. -/
def Phase.label : Phase → String
  | awaitingFirst => "ClientFirst"
  | awaitingFinal => "ClientFinal"
  | finished => "Finished"
  | aborted => "Aborted"

end Scram
