import MintDrop.Bytes

/-!
# Base 58

`Base58.encode` writes a byte string as the digits of a number in base 58, with one `1` for each leading
zero byte, and `Base58.decode?` reads such a text.
-/

namespace MintDrop.Base58

/-- The digits in the order of their values: no `0`, `O`, `I` or `l`. -/
def alphabet : List Char := "123456789ABCDEFGHJKLMNPQRSTUVWXYZabcdefghijkmnopqrstuvwxyz".toList

/-- The digit of a value below 58. -/
def digit (n : Nat) : Char := alphabet.getD n '1'

/-- The value of a digit. -/
def value? (c : Char) : Option Nat := alphabet.idxOf? c

/-- The digits of a positive number in a base, the last one first; none for zero. -/
def digitsRev (base : Nat) (h : 1 < base) (n : Nat) : List Nat :=
  if _hn : n = 0 then [] else n % base :: digitsRev base h (n / base)
termination_by n
decreasing_by exact Nat.div_lt_self (Nat.pos_of_ne_zero _hn) h

/-- The number whose digits in a base these are, the first one weighing most. -/
def ofDigits (base : Nat) (ds : List Nat) : Nat := ds.foldl (fun n d => base * n + d) 0

/-- The text of a byte string. -/
def encode (bs : Bytes) : String :=
  let zeros := (bs.takeWhile (· == 0)).length
  let digits := (digitsRev 58 (by decide) (Bytes.toNatBE bs)).reverse
  String.ofList (List.replicate zeros '1' ++ digits.map digit)

/-- The byte string of a text, unless it has a character that is no digit. -/
def decode? (s : String) : Option Bytes := do
  let values ← s.toList.mapM value?
  let zeros := (values.takeWhile (· == 0)).length
  let bytes := (digitsRev 256 (by decide) (ofDigits 58 values)).reverse
  pure (List.replicate zeros 0 ++ bytes.map UInt8.ofNat)

end MintDrop.Base58
