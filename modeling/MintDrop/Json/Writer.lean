/-!
# Writing JSON

The text of strings and objects without blanks, as lists of characters.
-/

namespace MintDrop.Json

/-- A hexadecimal digit of a number below sixteen. -/
def lowHex (n : Nat) : Char := Nat.digitChar n

/-- A character inside a string: quotes, backslashes and control characters are escaped. -/
def escapeChar (c : Char) : List Char :=
  if c = '"' then ['\\', '"']
  else if c = '\\' then ['\\', '\\']
  else if c = '\x08' then ['\\', 'b']
  else if c = '\x0c' then ['\\', 'f']
  else if c = '\n' then ['\\', 'n']
  else if c = '\r' then ['\\', 'r']
  else if c = '\t' then ['\\', 't']
  else if c.toNat < 0x20 then ['\\', 'u', '0', '0', lowHex (c.toNat / 16), lowHex (c.toNat % 16)]
  else [c]

/-- The written form of a string. -/
def writeString (s : String) : List Char := '"' :: s.toList.flatMap escapeChar ++ ['"']

/-- The written form of a boolean. -/
def writeBool (b : Bool) : List Char := if b then ['t', 'r', 'u', 'e'] else ['f', 'a', 'l', 's', 'e']

/-- An object of members whose values are already written. -/
def writeObject (members : List (String × List Char)) : List Char :=
  let written := members.map fun (key, value) => writeString key ++ ':' :: value
  '\x7b' :: [','].intercalate written ++ ['\x7d']

end MintDrop.Json
