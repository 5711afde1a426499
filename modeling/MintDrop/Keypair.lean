import MintDrop.Address
import MintDrop.Curve.Ed25519
import MintDrop.Number.Natural
import MintDrop.Text.Utf8

/-!
# Signing keys

A `Keypair` is a secret seed with the address of its public key.  `Keypair.ofFile?` reads a key file: a list
of 64 bytes in decimal, the seed and then the public key.
-/

namespace MintDrop

/-- A secret seed and the address that it signs for. -/
structure Keypair where
  seed : Bytes
  address : Address
  address_eq : address.bytes = Ed25519.publicKey seed
  deriving DecidableEq

namespace Keypair

/-- The key of a secret seed. -/
def ofSeed (seed : Bytes) : Keypair where
  seed
  address := ⟨Ed25519.publicKey seed, Ed25519.length_publicKey seed⟩
  address_eq := rfl

instance : Inhabited Keypair := ⟨ofSeed (List.replicate 32 0)⟩

/-- A number below 256 in decimal, with an optional plus sign. -/
def byte? (cs : List Char) : Option UInt8 :=
  (Natural.ofText? cs).bind fun n => if n < 256 then some (UInt8.ofNat n) else none

/-- The pieces of a text between commas. -/
def commaPieces (cs : List Char) : List (List Char) :=
  cs.foldr (fun c pieces => match c, pieces with
    | ',', pieces => [] :: pieces
    | c, piece :: pieces => (c :: piece) :: pieces
    | c, [] => [[c]]) [[]]

/-- The bytes that a key file lists between brackets. -/
def listedBytes? (text : String) : Option Bytes :=
  match Text.trimChars text.toList with
  | '[' :: rest =>
      match rest.reverse with
      | ']' :: inside => (commaPieces inside.reverse).mapM fun piece => byte? (Text.trimChars piece)
      | _ => none
  | _ => none

/-- The key of a key file: 64 bytes, of which the last 32 are the public key of the first 32. -/
def ofFile? (content : Bytes) : Option Keypair := do
  let text ← (Utf8.decode content).toOption
  let bytes ← listedBytes? text
  let key := ofSeed (bytes.take 32)
  if bytes.length = 64 ∧ key.address.bytes = bytes.drop 32 then some key else none

end Keypair

end MintDrop
