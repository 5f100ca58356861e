import Scram.Base64
import Scram.Cut
import Scram.Error

/-!
# The server's final message

The server's signature, or why it refuses. What follows the first comma is let pass.
-/

namespace Scram

inductive ServerFinal where
  | signature (octets : Bytes)
  | refusal (value : String)
  deriving DecidableEq, Repr

namespace ServerFinal

def signatureText (signature : Bytes) : String := "v=" ++ Base64.text signature

/-- What a server sends to a client whose message it refuses. -/
def refusalText (error : Error) : String := "e=" ++ error.refusal.text

def parse (message : String) : Except Error ServerFinal :=
  match Cut.after? "v=".toList message.toList with
  | some l => do
    let written := String.ofList (Cut.before ',' l)
    let octets ← expect (Base64.decode? (utf8 written)) (.invalid .verdict)
    return .signature octets
  | none => do
    let l ← expect (Cut.after? "e=".toList message.toList) (.missing .verdict)
    return .refusal (String.ofList (Cut.before ',' l))

end ServerFinal

end Scram
