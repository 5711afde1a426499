import MintDrop.Text.Ranges
import MintDrop.Text.Unprintable

/-!
# Quoted texts

`Text.quoted` shows a text between double quotes on one line: quotes, backslashes and characters without a
picture of their own are written as escapes.
-/

namespace MintDrop.Text

/-- Whether a character is shown as it is. -/
def isPrintable (c : Char) : Bool :=
  let n := c.toNat
  if n < 0x20 || n = 0x7f then false
  else if n < 0x7f then true
  else !within unprintable c

/-- A character inside double quotes. -/
def quotedChar (c : Char) : List Char :=
  match c with
  | '\x00' => ['\\', '0']
  | '\t' => ['\\', 't']
  | '\n' => ['\\', 'n']
  | '\r' => ['\\', 'r']
  | '"' => ['\\', '"']
  | '\\' => ['\\', '\\']
  | c =>
      if isPrintable c then [c]
      else ['\\', 'u', '\x7b'] ++ Nat.toDigits 16 c.toNat ++ ['\x7d']

/-- A text between double quotes. -/
def quoted (s : String) : String :=
  String.ofList ('"' :: s.toList.flatMap quotedChar ++ ['"'])

end MintDrop.Text
