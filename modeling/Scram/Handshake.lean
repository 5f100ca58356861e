import Scram.Client
import Scram.Server.Receive

/-!
# Handshakes

A client and a server that talk to each other, every message arriving as it was sent. A server
that refuses the client's final message tells it so; any other failure ends the handshake where
it happens.
-/

namespace Scram

/-- What happens in a handshake. -/
inductive Handshake.Entry where
  | clientSent (message : String)
  | serverAnswered (answer : Server.Answer)
  | clientFailed (error : Error)
  | clientSettled

/-- What a server sends to its client for this result. -/
def Handshake.reply : Except Error String → String
  | .ok message => message
  | .error error => ServerFinal.refusalText error

/-- The entries of a handshake, in order. -/
def handshake (c : Client) (s : Server) : List Handshake.Entry :=
  let (awaitingFirst, clientFirst) := c.first
  let opening := s.receive (utf8 clientFirst)
  .clientSent clientFirst :: .serverAnswered opening ::
    match opening.result with
    | .error _ => []
    | .ok serverFirst =>
      match awaitingFirst.answer serverFirst with
      | .error error => [.clientFailed error]
      | .ok (awaitingFinal, clientFinal) =>
        let closing := opening.server.receive (utf8 clientFinal)
        [.clientSent clientFinal, .serverAnswered closing,
          match awaitingFinal.settle (Handshake.reply closing.result) with
          | .ok () => .clientSettled
          | .error error => .clientFailed error]

end Scram
