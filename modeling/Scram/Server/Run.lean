import Scram.Server.Receive

/-!
# Runs

Everything that can happen to a server, one operation after another.
-/

namespace Scram.Server

inductive Operation where
  | message (octets : Bytes)
  | setPolicy (policy : Policy)
  | setAuthorizer (authorize : Authorizer)
  | setBinding (binding : BindingSource)

/-- What comes of an operation. -/
structure Turn where
  /-- The server afterwards. -/
  server : Server
  /-- The result of the message, where the operation was one. -/
  result : Option (Except Error String)
  events : List Event

/-- The turn in which a message was answered so. -/
def Answer.turn (answer : Answer) : Turn := ⟨answer.server, some answer.result, answer.events⟩

def step (s : Server) : Operation → Turn
  | .message octets => (s.receive octets).turn
  | .setPolicy policy => ⟨s.withPolicy policy, none, []⟩
  | .setAuthorizer authorize => ⟨s.withAuthorizer authorize, none, []⟩
  | .setBinding binding => ⟨s.withBinding binding, none, []⟩

/-- The turns of a run. -/
def run (s : Server) : List Operation → List Turn
  | [] => []
  | operation :: operations =>
    let turn := s.step operation
    turn :: turn.server.run operations

/-- The server after a run. -/
def after (s : Server) (operations : List Operation) : Server :=
  operations.foldl (fun s operation => (s.step operation).server) s

end Scram.Server
