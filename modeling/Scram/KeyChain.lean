import Scram.Algorithm

/-!
# The key chain

From the salted password come a client key and a server key. The client proves that it knows
its key by masking it with a signature that only the hashed key is needed to make; the server
proves itself by signing with its own. Both sign one transcript of the exchange.
-/

namespace Scram

/-- What both ends sign: the client's first message without its header, the server's first
message, and the client's final message without its proof, between commas. -/
def transcript (clientFirstBare serverFirst withoutProof : Bytes) : List Bytes :=
  [clientFirstBare, [comma], serverFirst, [comma], withoutProof]

/-- The signed pieces put together: three messages, with a comma between neighbours. -/
theorem flatten_transcript (clientFirstBare serverFirst withoutProof : Bytes) :
    (transcript clientFirstBare serverFirst withoutProof).flatten =
      clientFirstBare ++ comma :: (serverFirst ++ comma :: withoutProof) := by
  simp [transcript]

namespace Algorithm

def clientKey (a : Algorithm) (saltedPassword : Bytes) : Bytes :=
  a.hmac saltedPassword (utf8 "Client Key")

def serverKey (a : Algorithm) (saltedPassword : Bytes) : Bytes :=
  a.hmac saltedPassword (utf8 "Server Key")

/-- What a server has to store of a client key to check proofs of it. -/
def storedKey (a : Algorithm) (clientKey : Bytes) : Bytes := a.hash clientKey

/-- The proof that the holder of a client key gives of it. -/
def clientProof (a : Algorithm) (clientKey storedKey : Bytes) (transcript : List Bytes) : Bytes :=
  xorOctets clientKey (a.hmacParts storedKey transcript)

end Algorithm

/-- What the two ends prove themselves with. -/
structure Evidence where
  clientProof : Bytes
  serverSignature : Bytes
  deriving DecidableEq, Repr

/-- Both proofs of an exchange at once, as the end that knows the password derives them. -/
def Algorithm.evidence (a : Algorithm) (saltedPassword : Bytes) (transcript : List Bytes) :
    Evidence :=
  let clientKey := a.clientKey saltedPassword
  let serverKey := a.serverKey saltedPassword
  { clientProof := a.clientProof clientKey (a.storedKey clientKey) transcript
    serverSignature := a.hmacParts serverKey transcript }

end Scram
