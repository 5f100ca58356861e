import Scram.Digest.Secure
import Scram.Error
import Scram.Salted

/-!
# Hash algorithms

The three hash functions that a mechanism can be built on, by name, and the keyed operations of
an exchange under each.
-/

namespace Scram

inductive Algorithm where
  | sha1
  | sha256
  | sha512
  deriving DecidableEq, Repr

namespace Algorithm

def function : Algorithm → HashFunction
  | sha1 => .sha1
  | sha256 => .sha256
  | sha512 => .sha512

/-- The name that stands in mechanism names. -/
def name : Algorithm → String
  | sha1 => "SHA-1"
  | sha256 => "SHA-256"
  | sha512 => "SHA-512"

/-- Finds an algorithm by its name, with or without the hyphen and in any case of the ASCII
letters. -/
def ofName (name : String) : Except Error Algorithm :=
  match String.ofList (name.toList.map Char.toUpper) with
  | "SHA-1" | "SHA1" => .ok sha1
  | "SHA-256" | "SHA256" => .ok sha256
  | "SHA-512" | "SHA512" => .ok sha512
  | _ => .error (.unsupportedAlgorithm name)

/-- How many octets a digest has, and with it every key and every proof. -/
def digestSize (a : Algorithm) : Nat := a.function.digestSize

def hash (a : Algorithm) (message : Bytes) : Bytes := a.function.hash message

/-- The keyed hash of the pieces one after another. -/
def hmacParts (a : Algorithm) (key : Bytes) (parts : List Bytes) : Bytes :=
  (Hmac.Key.ofBytes key : Hmac.Key a.function).sign parts

/-- The keyed hash of one message. -/
def hmac (a : Algorithm) (key message : Bytes) : Bytes := a.hmacParts key [message]

/-- The keyed hash depends on the pieces only through what they are put together. -/
theorem hmacParts_eq (a : Algorithm) (key : Bytes) (parts : List Bytes) :
    a.hmacParts key parts = a.hmac key parts.flatten := by
  simp only [hmac, hmacParts, Hmac.Key.sign_eq, List.flatten_cons, List.flatten_nil,
    List.append_nil]

/-- The salted form of a password given as octets. -/
def saltOctets (a : Algorithm) (password salt : Bytes) (count : IterationCount) : Bytes :=
  saltedPassword a.function password salt count

/-- The salted form of a password given as text, of which the UTF-8 octets count. -/
def saltText (a : Algorithm) (password : String) (salt : Bytes) (count : IterationCount) : Bytes :=
  a.saltOctets (utf8 password) salt count

@[simp] theorem length_hash (a : Algorithm) (message : Bytes) :
    (a.hash message).length = a.digestSize :=
  HashFunction.length_hash _ _

/-- A keyed hash is a digest, whatever the pieces were. -/
@[simp] theorem length_hmacParts (a : Algorithm) (key : Bytes) (parts : List Bytes) :
    (a.hmacParts key parts).length = a.digestSize :=
  Hmac.Key.length_sign _ _

@[simp] theorem length_hmac (a : Algorithm) (key message : Bytes) :
    (a.hmac key message).length = a.digestSize :=
  length_hmacParts a key [message]

end Algorithm

end Scram
