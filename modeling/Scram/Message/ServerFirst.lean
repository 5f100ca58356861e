import Scram.Base64
import Scram.Cut
import Scram.Error
import Scram.IterationCount
import Scram.Nonce

/-!
# The server's first message

The nonce of the exchange, and the salt and iteration count that the user's password was hashed
with. Attributes after these three are let pass; one that must be understood stands first and
is refused.
-/

namespace Scram

structure ServerFirst where
  nonce : String
  salt : Bytes
  iterations : IterationCount
  deriving DecidableEq, Repr

namespace ServerFirst

def text (m : ServerFirst) : String :=
  "r=" ++ m.nonce ++ ",s=" ++ Base64.text m.salt ++ ",i=" ++ m.iterations.text

/-- The value of the attribute `key`, from the part of the message where it must stand. -/
def valueAt (key : String) (field : Field) (part : Option (List Char)) :
    Except Error (List Char) :=
  expect (part.bind (Cut.after? key.toList)) (.missing field)

def parse (message : String) : Except Error ServerFirst := do
  ensure (Cut.after? "m=".toList message.toList = none) .unsupportedExtension
  let parts := message.toList.splitOn ','
  let nonce ← valueAt "r=" .nonce parts[0]?
  ensure (isNonce (utf8 (String.ofList nonce))) (.invalid .nonce)
  let written ← valueAt "s=" .salt parts[1]?
  let salt ← expect (Base64.decode? (utf8 (String.ofList written))) (.invalid .salt)
  let digits ← valueAt "i=" .iterations parts[2]?
  let iterations ← expect (IterationCount.ofChars? digits) (.invalid .iterations)
  return { nonce := String.ofList nonce, salt, iterations }

end ServerFirst

end Scram
