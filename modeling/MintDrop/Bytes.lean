/-!
# Byte strings

Byte strings are lists of `UInt8`.  `Bytes.ofNatLE` and `Bytes.toNatLE` are the little-endian form of
fixed-width numbers, `Bytes.toHex` and `Bytes.ofHex?` the hexadecimal text.  `ofNatLE_toNatLE` says
that a number determines its bytes.
-/

namespace MintDrop

/-- A byte string. -/
abbrev Bytes := List UInt8

namespace Bytes

/-! ### Numbers, least significant byte first -/

/-- The lowest `width` bytes of a number. -/
def ofNatLE : (width : Nat) → Nat → Bytes
  | 0, _ => []
  | width + 1, n => UInt8.ofNat n :: ofNatLE width (n / 256)

/-- The number whose bytes these are. -/
def toNatLE : Bytes → Nat
  | [] => 0
  | b :: bs => b.toNat + 256 * toNatLE bs

@[simp] theorem length_ofNatLE (width n : Nat) : (ofNatLE width n).length = width := by
  induction width generalizing n with
  | zero => rfl
  | succ width ih => simp [ofNatLE, ih]

theorem ofNatLE_toNatLE (bs : Bytes) : ofNatLE bs.length (toNatLE bs) = bs := by
  induction bs with
  | nil => rfl
  | cons b bs ih =>
      have hb : b.toNat < 256 := b.toNat_lt
      simp only [List.length_cons, toNatLE, ofNatLE]
      congr 1
      · apply UInt8.toNat_inj.1
        rw [UInt8.toNat_ofNat']
        omega
      · rw [show (b.toNat + 256 * toNatLE bs) / 256 = toNatLE bs by omega, ih]

/-- The number whose bytes these are, most significant byte first. -/
def toNatBE (bs : Bytes) : Nat := bs.foldl (fun n b => 256 * n + b.toNat) 0

/-- The lowest `width` bytes of a number, most significant byte first. -/
def ofNatBE (width n : Nat) : Bytes := (ofNatLE width n).reverse

/-! ### Hexadecimal text -/

/-- The digit of a number below sixteen. -/
def hexDigit (n : Nat) : Char :=
  if n < 10 then Char.ofNat (n + '0'.toNat) else Char.ofNat (n - 10 + 'a'.toNat)

/-- The value of a hexadecimal digit of either case. -/
def hexValue? (c : Char) : Option Nat :=
  if '0' ≤ c ∧ c ≤ '9' then some (c.toNat - '0'.toNat)
  else if 'a' ≤ c ∧ c ≤ 'f' then some (c.toNat - 'a'.toNat + 10)
  else if 'A' ≤ c ∧ c ≤ 'F' then some (c.toNat - 'A'.toNat + 10)
  else none

/-- Two lower-case digits for each byte. -/
def toHex (bs : Bytes) : String :=
  String.ofList (bs.flatMap fun b => [hexDigit (b.toNat / 16), hexDigit (b.toNat % 16)])

/-- Pairs of hexadecimal digits as bytes. -/
def ofHexDigits? : List Char → Option Bytes
  | [] => some []
  | [_] => none
  | hi :: lo :: rest => do
      let h ← hexValue? hi
      let l ← hexValue? lo
      let bs ← ofHexDigits? rest
      pure (UInt8.ofNat (16 * h + l) :: bs)

/-- The bytes that a hexadecimal text spells. -/
def ofHex? (s : String) : Option Bytes := ofHexDigits? s.toList

/-- The bytes of a text whose characters are all below 256, one byte a character. -/
def ofAscii (s : String) : Bytes := s.toList.map fun c => UInt8.ofNat c.toNat

end Bytes

end MintDrop
