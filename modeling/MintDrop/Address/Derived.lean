import MintDrop.Address
import MintDrop.Curve.Ed25519
import MintDrop.Text.Utf8

/-!
# Derived addresses

A program owns addresses that no key signs for.  `Address.derive` finds the address of a list of seeds under
a program, together with the bump that moved it off the curve; `Derivation` collects the programs under
which the accounts of a mint are derived.
-/

namespace MintDrop

namespace Address

/-- The 32 bytes that seeds and a bump hash to under a program. -/
def candidate (seeds : List Bytes) (program : Address) (bump : UInt8) : Address :=
  ⟨Sha2.sha256 (seeds.flatten ++ [bump] ++ program.bytes
    ++ Bytes.ofAscii "ProgramDerivedAddress"), Sha2.length_sha256 _⟩

/-- The candidate with the largest bump up to `bump` that is no point of the curve.  The search ends at
bump 0, whose candidate is taken as it is. -/
def deriveFrom (seeds : List Bytes) (program : Address) : (bump : Nat) → Address × UInt8
  | 0 => (candidate seeds program 0, 0)
  | bump + 1 =>
      let a := candidate seeds program (UInt8.ofNat (bump + 1))
      if Ed25519.isPoint a.bytes then deriveFrom seeds program bump else (a, UInt8.ofNat (bump + 1))

/-- The address of seeds under a program, with its bump. -/
def derive (seeds : List Bytes) (program : Address) : Address × UInt8 := deriveFrom seeds program 255

end Address

/-- The programs under which the accounts of a mint are derived. -/
structure Derivation where
  recordProgram : Address
  tokenProgram : Address
  metadataProgram : Address
  associatedTokenProgram : Address
  deriving DecidableEq

namespace Derivation

/-- The derivations of a record program beside the usual token programs. -/
def standard (recordProgram : Address) : Derivation where
  recordProgram
  tokenProgram := Address.tokenProgram
  metadataProgram := Address.metadataProgram
  associatedTokenProgram := Address.associatedTokenProgram

/-- The token account that holds an owner's tokens of a mint. -/
def holderAccount (d : Derivation) (owner mint : Address) : Address :=
  (Address.derive [owner.bytes, d.tokenProgram.bytes, mint.bytes] d.associatedTokenProgram).1

/-- The account that holds a mint's metadata. -/
def metadata (d : Derivation) (mint : Address) : Address :=
  (Address.derive [Utf8.encode "metadata", d.metadataProgram.bytes, mint.bytes] d.metadataProgram).1

/-- The account that marks a mint as one of a single unit, of which prints may be made. -/
def masterEdition (d : Derivation) (mint : Address) : Address :=
  (Address.derive [Utf8.encode "metadata", d.metadataProgram.bytes, mint.bytes, Utf8.encode "edition"]
    d.metadataProgram).1

/-- The address that acts for a record when it mints, with its bump. -/
def recordAuthority (d : Derivation) (record : Address) : Address × UInt8 :=
  Address.derive [Utf8.encode "candy_machine", record.bytes] d.recordProgram

end Derivation

end MintDrop
