import Scram.Base64
import Scram.Cut
import Scram.Error
import Scram.Nonce

/-!
# The client's final message

The channel binding value, the nonce of the exchange, and the proof, which stands last. Nothing
of it has to be text: it is read as octets, and the written values are left for the checks that
they are for, so that a value which does not decode fails its check like any other wrong value.
-/

namespace Scram

structure ClientFinal where
  /-- All before the proof, as received. -/
  withoutProof : Bytes
  /-- The channel binding value, as it is written. -/
  binding : Bytes
  nonce : Bytes
  /-- The proof, as it is written. -/
  proof : Bytes
  deriving DecidableEq, Repr

namespace ClientFinal

/-- The message without its proof, and without extensions. -/
def withoutProofText (binding : Bytes) (nonce : String) : String :=
  "c=" ++ Base64.text binding ++ ",r=" ++ nonce

/-- The whole message. -/
def text (withoutProof : String) (proof : Bytes) : String :=
  withoutProof ++ ",p=" ++ Base64.text proof

def parse (message : Bytes) : Except Error ClientFinal := do
  let l ← expect (Cut.after? (utf8 "c=") message) (.missing .binding)
  let (binding, l) ← expect (Cut.atFirst? comma l) (.missing .nonce)
  ensure (binding ≠ []) (.invalid .binding)
  let l ← expect (Cut.after? (utf8 "r=") l) (.missing .nonce)
  let (nonce, _) ← expect (Cut.atFirst? comma l) (.missing .proof)
  ensure (isNonce nonce) (.invalid .nonce)
  let (withoutProof, proof) ← expect (Cut.atLast? (utf8 ",p=") message) (.missing .proof)
  ensure (proof ≠ [] ∧ comma ∉ proof) (.invalid .proof)
  return { withoutProof, binding, nonce, proof }

end ClientFinal

end Scram
