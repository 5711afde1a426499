import MintDrop.Address
import MintDrop.Text.Utf8

/-!
# Binary codecs

A `Codec` writes values as bytes and reads them from the head of a byte string: numbers are little-endian,
texts and lists begin with their length in 32 bits, options with a tag.  Records are codecs of pairs seen
through `Codec.iso`.
-/

namespace MintDrop

namespace Codec

/-- Why bytes cannot be read. -/
inductive Fault
  | endOfInput
  | booleanTag (tag : UInt8)
  | optionTag (tag : UInt8)
  | variantTag (tag : UInt8)
  | text (fault : Utf8.Fault)
  deriving DecidableEq

/-- The wording of a fault. -/
def Fault.message : Fault → String
  | .endOfInput => "Unexpected length of input"
  | .booleanTag tag => "Invalid bool representation: " ++ toString tag.toNat
  | .optionTag tag =>
      "Invalid Option representation: " ++ toString tag.toNat ++ ". The first byte must be 0 or 1"
  | .variantTag tag => "Unexpected variant tag: " ++ toString tag.toNat
  | .text fault => fault.message

end Codec

/-- A way to write values as bytes and to read them back.  Writing fails only on a text or list too long
to be counted in 32 bits; reading returns the bytes that follow the value. -/
structure Codec (α : Type) where
  encode : α → Option Bytes
  decode : Bytes → Except Codec.Fault (α × Bytes)

namespace Codec

/-- The next bytes of a given number. -/
def take (count : Nat) (bs : Bytes) : Except Fault (Bytes × Bytes) :=
  if count ≤ bs.length then .ok (bs.take count, bs.drop count) else .error .endOfInput

/-- A byte string of fixed length. -/
def bytes (count : Nat) : Codec { bs : Bytes // bs.length = count } where
  encode bs := some bs.1
  decode bs :=
    if h : count ≤ bs.length then .ok (⟨bs.take count, by simp [h]⟩, bs.drop count)
    else .error .endOfInput

/-- Values that correspond one to one to values of another codec. -/
def iso {α β : Type} (c : Codec α) (there : α → β) (back : β → α) : Codec β where
  encode b := c.encode (back b)
  decode bs := (c.decode bs).map fun (a, rest) => (there a, rest)

/-- A natural number in a number of bytes, as a value of a type of fixed width. -/
def fixed {α : Type} (width : Nat) (ofNat : Nat → α) (toNat : α → Nat) : Codec α where
  encode a := some (Bytes.ofNatLE width (toNat a))
  decode bs := (take width bs).map fun (n, rest) => (ofNat (Bytes.toNatLE n), rest)

/-- Unsigned numbers of 8 bits. -/
def uint8 : Codec UInt8 := fixed 1 UInt8.ofNat UInt8.toNat

/-- Unsigned numbers of 16 bits. -/
def uint16 : Codec UInt16 := fixed 2 UInt16.ofNat UInt16.toNat

/-- Unsigned numbers of 32 bits. -/
def uint32 : Codec UInt32 := fixed 4 UInt32.ofNat UInt32.toNat

/-- Unsigned numbers of 64 bits. -/
def uint64 : Codec UInt64 := fixed 8 UInt64.ofNat UInt64.toNat

/-- Signed numbers of 64 bits, in two's complement. -/
def int64 : Codec Int64 := uint64.iso UInt64.toInt64 Int64.toUInt64

/-- Addresses. -/
def address : Codec Address := (bytes 32).iso (fun bs => ⟨bs.1, bs.2⟩) (fun a => ⟨a.bytes, a.length_bytes⟩)

/-- Booleans, in one byte. -/
def boolean : Codec Bool where
  encode b := some [if b then 1 else 0]
  decode
    | [] => .error .endOfInput
    | tag :: rest =>
        if tag = 0 then .ok (false, rest)
        else if tag = 1 then .ok (true, rest)
        else .error (.booleanTag tag)

/-- The cases of a choice without content, each by its place in a list. -/
def variant {α : Type} [DecidableEq α] (cases : List α) : Codec α where
  encode a := some [UInt8.ofNat (cases.idxOf a)]
  decode
    | [] => .error .endOfInput
    | tag :: rest =>
        match cases[tag.toNat]? with
        | some a => .ok (a, rest)
        | none => .error (.variantTag tag)

/-- An optional value behind a tag. -/
def option {α : Type} (c : Codec α) : Codec (Option α) where
  encode
    | none => some [0]
    | some a => (c.encode a).map (1 :: ·)
  decode
    | [] => .error .endOfInput
    | tag :: rest =>
        if tag = 0 then .ok (none, rest)
        else if tag = 1 then (c.decode rest).map fun (a, rest) => (some a, rest)
        else .error (.optionTag tag)

/-- One value after another. -/
def pair {α β : Type} (c : Codec α) (d : Codec β) : Codec (α × β) where
  encode p := do
    let a ← c.encode p.1
    let b ← d.encode p.2
    pure (a ++ b)
  decode bs := do
    let (a, rest) ← c.decode bs
    let (b, rest) ← d.decode rest
    pure ((a, b), rest)

/-- The bytes of a length, unless it needs more than 32 bits. -/
def encodeCount (count : Nat) : Option Bytes :=
  if count < UInt32.size then some (Bytes.ofNatLE 4 count) else none

/-- A text behind its length in bytes. -/
def text : Codec String where
  encode s := (encodeCount (Utf8.encode s).length).map (· ++ Utf8.encode s)
  decode bs := do
    let (count, rest) ← uint32.decode bs
    let (content, rest) ← take count.toNat rest
    match Utf8.decode content with
    | .ok s => pure (s, rest)
    | .error fault => throw (.text fault)

/-- The bytes of the elements of a list. -/
def encodeAll {α : Type} (c : Codec α) : List α → Option Bytes
  | [] => some []
  | a :: as => do
      let head ← c.encode a
      let tail ← encodeAll c as
      pure (head ++ tail)

/-- The next elements of a given number. -/
def decodeAll {α : Type} (c : Codec α) : (count : Nat) → Bytes → Except Fault (List α × Bytes)
  | 0, bs => .ok ([], bs)
  | count + 1, bs => do
      let (a, rest) ← c.decode bs
      let (as, rest) ← decodeAll c count rest
      pure (a :: as, rest)

/-- A list behind its length. -/
def list {α : Type} (c : Codec α) : Codec (List α) where
  encode as := do
    let count ← encodeCount as.length
    let content ← encodeAll c as
    pure (count ++ content)
  decode bs := do
    let (count, rest) ← uint32.decode bs
    decodeAll c count.toNat rest

end Codec

end MintDrop
