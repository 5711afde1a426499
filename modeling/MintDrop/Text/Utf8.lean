import MintDrop.Bytes

/-!
# UTF-8

`Utf8.encode` writes a text as bytes and `Utf8.decode` reads it back.  A byte string that is no text is
refused with the place of its first ill-formed sequence, `Utf8.Fault`.
-/

namespace MintDrop.Utf8

/-- The bytes of a text. -/
def encode (s : String) : Bytes := s.toList.flatMap String.utf8EncodeChar

/-- The number of bytes of a text. -/
def size (s : String) : Nat := s.utf8ByteSize

/-- Why a byte string is no text. -/
inductive Fault
  /-- The `length` bytes at `index` begin no character. -/
  | invalid (length index : Nat)
  /-- The bytes from `index` to the end are the beginning of a character. -/
  | incomplete (index : Nat)
  deriving DecidableEq, Repr

/-- The wording of a fault. -/
def Fault.message : Fault → String
  | .invalid length index => s!"invalid utf-8 sequence of {length} bytes from index {index}"
  | .incomplete index => s!"incomplete utf-8 byte sequence from index {index}"

/-- The number of bytes of a character by its first byte, with the bounds of the second byte. -/
def lead? (b : UInt8) : Option (Nat × UInt8 × UInt8) :=
  if b < 0x80 then some (1, 0, 0)
  else if b < 0xc2 then none
  else if b < 0xe0 then some (2, 0x80, 0xbf)
  else if b = 0xe0 then some (3, 0xa0, 0xbf)
  else if b = 0xed then some (3, 0x80, 0x9f)
  else if b < 0xf0 then some (3, 0x80, 0xbf)
  else if b = 0xf0 then some (4, 0x90, 0xbf)
  else if b < 0xf4 then some (4, 0x80, 0xbf)
  else if b = 0xf4 then some (4, 0x80, 0x8f)
  else none

/-- Whether a byte continues a character. -/
def isTail (b : UInt8) : Bool := 0x80 ≤ b && b ≤ 0xbf

/-- The character of a two-byte sequence. -/
def join₂ (a b : UInt8) : Char := Char.ofNat ((a.toNat - 0xc0) * 64 + (b.toNat - 0x80))

/-- The character of a three-byte sequence. -/
def join₃ (a b c : UInt8) : Char :=
  Char.ofNat ((a.toNat - 0xe0) * 4096 + (b.toNat - 0x80) * 64 + (c.toNat - 0x80))

/-- The character of a four-byte sequence. -/
def join₄ (a b c d : UInt8) : Char :=
  Char.ofNat ((a.toNat - 0xf0) * 262144 + (b.toNat - 0x80) * 4096 + (c.toNat - 0x80) * 64
    + (d.toNat - 0x80))

/-- The fault of a character of `width` bytes whose bytes after the first are these. -/
def cutFault (index width : Nat) (low high : UInt8) : Bytes → Fault
  | [] => .incomplete index
  | b :: rest =>
      if ¬ (low ≤ b ∧ b ≤ high) then .invalid 1 index
      else match rest with
        | [] => .incomplete index
        | c :: rest =>
            if ¬ isTail c then .invalid 2 index
            else if width ≤ 3 then .incomplete index
            else match rest with
              | [] => .incomplete index
              | _ => .invalid 3 index

/-- The characters of a byte string that begins at `index` of the whole. -/
def decodeFrom (index : Nat) : Bytes → Except Fault (List Char)
  | [] => .ok []
  | a :: rest =>
      match lead? a with
      | none => .error (.invalid 1 index)
      | some (1, _, _) => (decodeFrom (index + 1) rest).map (Char.ofNat a.toNat :: ·)
      | some (width, low, high) =>
          match width, rest with
          | 2, b :: rest =>
              if low ≤ b ∧ b ≤ high then (decodeFrom (index + 2) rest).map (join₂ a b :: ·)
              else .error (.invalid 1 index)
          | 3, b :: c :: rest =>
              if low ≤ b ∧ b ≤ high ∧ isTail c then
                (decodeFrom (index + 3) rest).map (join₃ a b c :: ·)
              else .error (cutFault index 3 low high [b, c])
          | 4, b :: c :: d :: rest =>
              if low ≤ b ∧ b ≤ high ∧ isTail c ∧ isTail d then
                (decodeFrom (index + 4) rest).map (join₄ a b c d :: ·)
              else .error (cutFault index 4 low high [b, c, d])
          | width, rest => .error (cutFault index width low high rest)

/-- The text of a byte string. -/
def decode (bs : Bytes) : Except Fault String := (decodeFrom 0 bs).map String.ofList

end MintDrop.Utf8
