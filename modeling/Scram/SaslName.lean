import Scram.Cut

/-!
# Names on the wire

A name stands in a message with its equals signs and commas written as escapes, so that a
comma always ends the attribute. Reading accepts exactly what writing makes of a name that is
usable: not empty, and without the zero character.
-/

namespace Scram.SaslName

/-- The written form of a character. -/
def escape (c : Char) : List Char :=
  if c = '=' then ['=', '3', 'D'] else if c = ',' then ['=', '2', 'C'] else [c]

/-- Undoes the escapes. A comma, a zero character, and an equals sign that begins no escape are
refused. -/
def unescape? : List Char → Option (List Char)
  | [] => some []
  | '=' :: '3' :: 'D' :: rest => (unescape? rest).map ('=' :: ·)
  | '=' :: '2' :: 'C' :: rest => (unescape? rest).map (',' :: ·)
  | c :: rest =>
    if c = '=' ∨ c = ',' ∨ c = '\x00' then none else (unescape? rest).map (c :: ·)

/-- The written form of a name. -/
def encode (name : String) : String := String.ofList (name.toList.flatMap escape)

/-- The name that is written with these characters. No characters are no name. -/
def ofChars? (l : List Char) : Option String :=
  if l = [] then none else (unescape? l).map String.ofList

/-- The name that is written so. -/
def decode? (written : String) : Option String := ofChars? written.toList

/-- A name that can stand in a message. -/
def Usable (name : String) : Prop := name ≠ "" ∧ '\x00' ∉ name.toList

instance (name : String) : Decidable (Usable name) := inferInstanceAs (Decidable (_ ∧ _))

end Scram.SaslName
