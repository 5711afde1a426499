import MintDrop.Ledger.Error
import MintDrop.Address.Derived

/-!
# Instructions

An `Instruction` calls a program with accounts and data.  This file holds the instructions of the system
program, the token program and the associated token program that the tool sends, and reads the accounts of
the token program.
-/

namespace MintDrop

/-- An account that an instruction uses. -/
structure AccountMeta where
  address : Address
  isSigner : Bool
  isWritable : Bool
  deriving DecidableEq

namespace AccountMeta

/-- An account that is read. -/
def readOnly (a : Address) : AccountMeta := ⟨a, false, false⟩

/-- An account that is changed. -/
def writable (a : Address) : AccountMeta := ⟨a, false, true⟩

/-- An account that is read and signs. -/
def signer (a : Address) : AccountMeta := ⟨a, true, false⟩

/-- An account that is changed and signs. -/
def writableSigner (a : Address) : AccountMeta := ⟨a, true, true⟩

end AccountMeta

/-- A call of a program. -/
structure Instruction where
  program : Address
  accounts : List AccountMeta
  data : Bytes
  deriving DecidableEq

/-! ### System program -/

namespace System

/-- Creates an account of `space` bytes with a balance, owned by a program. -/
def createAccount (payer account : Address) (lamports space : UInt64) (owner : Address) : Instruction where
  program := Address.systemProgram
  accounts := [.writableSigner payer, .writableSigner account]
  data := Bytes.ofNatLE 4 0 ++ Bytes.ofNatLE 8 lamports.toNat ++ Bytes.ofNatLE 8 space.toNat ++ owner.bytes

/-- Moves lamports between accounts. -/
def transfer (source target : Address) (lamports : UInt64) : Instruction where
  program := Address.systemProgram
  accounts := [.writableSigner source, .writable target]
  data := Bytes.ofNatLE 4 2 ++ Bytes.ofNatLE 8 lamports.toNat

end System

/-! ### Token program -/

namespace Token

/-- The bytes of a mint's account. -/
def mintSize : Nat := 82

/-- The bytes of a token account. -/
def accountSize : Nat := 165

/-- An instruction of the token program, which refuses to be addressed to another program. -/
def instruction (program : Address) (accounts : List AccountMeta) (data : Bytes) :
    Except LedgerError Instruction :=
  if program = Address.tokenProgram then .ok ⟨program, accounts, data⟩
  else .error (.encode .foreignProgram)

/-- Makes an account the mint of a token without decimals, minted and frozen by one authority. -/
def initializeMint (program mint authority : Address) : Except LedgerError Instruction :=
  instruction program [.writable mint, .readOnly Address.rentAccount]
    ([0, 0] ++ authority.bytes ++ [1] ++ authority.bytes)

/-- Mints an amount into a token account. -/
def mintTo (program mint account authority : Address) (amount : UInt64) :
    Except LedgerError Instruction :=
  instruction program [.writable mint, .writable account, .signer authority]
    (7 :: Bytes.ofNatLE 8 amount.toNat)

/-- Lets a delegate spend an amount of a token account. -/
def approve (program source delegate owner : Address) (amount : UInt64) :
    Except LedgerError Instruction :=
  instruction program [.writable source, .readOnly delegate, .signer owner]
    (4 :: Bytes.ofNatLE 8 amount.toNat)

/-- Takes the right to spend back from the delegate of a token account. -/
def revoke (program source owner : Address) : Except LedgerError Instruction :=
  instruction program [.writable source, .signer owner] [5]

/-- Creates the token account of an owner for a mint. -/
def createHolderAccount (program payer owner mint : Address) : Instruction where
  program := Address.associatedTokenProgram
  accounts :=
    let d := { Derivation.standard Address.recordProgram with tokenProgram := program }
    [.writableSigner payer, .writable (d.holderAccount owner mint), .readOnly owner, .readOnly mint,
      .readOnly Address.systemProgram, .readOnly program]
  data := [0]

/-- Whether four bytes are the tag of an optional part. -/
def isOptionTag (bs : Bytes) : Bool := bs = [0, 0, 0, 0] || bs = [1, 0, 0, 0]

/-- The bytes from a place on. -/
def slice (bs : Bytes) (start count : Nat) : Bytes := (bs.drop start).take count

/-- The number of decimals that an initialized mint's account holds. -/
def decimals? (data : Bytes) : Option UInt8 :=
  if data.length = mintSize ∧ isOptionTag (slice data 0 4) ∧ slice data 45 1 = [1]
      ∧ isOptionTag (slice data 46 4) then
    data[44]?
  else none

/-- The mint whose tokens an initialized token account holds. -/
def accountMint? (data : Bytes) : Option Address :=
  if data.length = accountSize ∧ isOptionTag (slice data 72 4)
      ∧ (slice data 108 1 = [1] ∨ slice data 108 1 = [2])
      ∧ isOptionTag (slice data 109 4) ∧ isOptionTag (slice data 129 4) then
    Address.ofBytes? (slice data 0 32)
  else none

end Token

end MintDrop
