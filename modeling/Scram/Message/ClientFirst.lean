import Scram.Error
import Scram.Nonce
import Scram.SaslName

/-!
# The client's first message

A header with the channel binding flag and the identity asked for, and the bare message with the
user's name and the client's nonce. Both ends sign the bare message and bind the header, so a
reader keeps the two as they were received and never puts them together from their parts.
-/

namespace Scram

structure ClientFirst where
  /-- The header with its last comma, as received. -/
  header : String
  flag : BindingFlag
  /-- The identity to act as, when one is asked for. -/
  authzid : Option String
  /-- What follows the header, as received. -/
  bare : String
  /-- The value of the attribute reserved for mandatory extensions. -/
  mandatoryExtension : Option String
  username : String
  nonce : String
  /-- What follows the nonce and its comma, as received. -/
  extensions : Option String
  deriving DecidableEq, Repr

namespace ClientFirst

/-! ## Writing -/

/-- The header for a flag and the identity to act as. -/
def headerText (flag : BindingFlag) (authzid : Option String) : String :=
  match authzid with
  | some authzid => flag.text ++ ",a=" ++ SaslName.encode authzid ++ ","
  | none => flag.text ++ ",,"

/-- The bare message, without extensions. -/
def bareText (username nonce : String) : String :=
  "n=" ++ SaslName.encode username ++ ",r=" ++ nonce

/-! ## Reading -/

/-- The characters of a channel binding's name. -/
def isBindingNameChar (c : Char) : Bool := c.isAlphanum || c = '.' || c = '-'

def parseFlag : List Char → Except Error BindingFlag
  | [] => .error (.missing .bindingFlag)
  | ['n'] => .ok .unsupported
  | ['y'] => .ok .unused
  | 'p' :: '=' :: name => do
    ensure (name ≠ [] ∧ name.all isBindingNameChar) (.invalid .bindingFlag)
    return .required (String.ofList name)
  | _ => .error (.invalid .bindingFlag)

def parseAuthzid : List Char → Except Error (Option String)
  | [] => .ok none
  | l => do
    let written ← expect (Cut.after? "a=".toList l) (.missing .authzid)
    let authzid ← expect (SaslName.ofChars? written) (.invalid .authzid)
    return some authzid

/-- Reads the mandatory extension that a bare message may begin with, and answers what follows
it. -/
def parseMandatoryExtension (bare : List Char) : Except Error (Option String × List Char) :=
  match Cut.after? "m=".toList bare with
  | none => .ok (none, bare)
  | some l => do
    let (value, l) ← expect (Cut.atFirst? ',' l) (.missing .authcid)
    ensure (value ≠ [] ∧ '\x00' ∉ value) (.invalid .mandatoryExtension)
    return (some (String.ofList value), l)

def parseUsername (l : List Char) : Except Error String := do
  let written ← expect (Cut.after? "n=".toList l) (.missing .authcid)
  expect (SaslName.ofChars? written) (.invalid .authcid)

/-- Reads the nonce, and the extensions after it. -/
def parseNonce (l : List Char) : Except Error (String × Option String) := do
  let l ← expect (Cut.after? "r=".toList l) (.missing .nonce)
  let nonce := String.ofList (Cut.before ',' l)
  ensure (isNonce (utf8 nonce)) (.invalid .nonce)
  return (nonce, (Cut.atFirst? ',' l).map fun cut => String.ofList cut.2)

def parse (message : String) : Except Error ClientFirst := do
  let (flagPart, l) ← expect (Cut.atFirst? ',' message.toList) (.missing .bindingFlag)
  let flag ← parseFlag flagPart
  let (authzidPart, bare) ← expect (Cut.atFirst? ',' l) (.missing .authzid)
  let authzid ← parseAuthzid authzidPart
  let (mandatoryExtension, l) ← parseMandatoryExtension bare
  let (usernamePart, l) ← expect (Cut.atFirst? ',' l) (.missing .nonce)
  let username ← parseUsername usernamePart
  let (nonce, extensions) ← parseNonce l
  return {
    header := String.ofList (flagPart ++ ',' :: authzidPart ++ [','])
    flag, authzid
    bare := String.ofList bare
    mandatoryExtension, username, nonce, extensions }

/-- Reads the message as it arrives. -/
def ofOctets (message : Bytes) : Except Error ClientFirst :=
  expect (ofUtf8? message) (.invalid .encoding) >>= parse

end ClientFirst

end Scram
