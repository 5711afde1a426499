import MintDrop.Ledger.Instruction

/-!
# Instructions of the record program

The data of an instruction is an eight-byte discriminator and the encoded arguments.  `Record.create`
creates a record, `Record.addLines` writes item lines, `Record.mintItem` mints an item and
`Record.withdraw` drains the balance.
-/

namespace MintDrop

/-- The name and the content address of an item. -/
structure Line where
  name : String
  uri : String
  deriving DecidableEq

namespace Record

/-- The eight bytes that mark the data of an instruction. -/
def instructionTag (name : String) : Bytes := (Sha2.sha256 (Utf8.encode ("global:" ++ name))).take 8

/-- The data of an instruction with encoded arguments. -/
def instructionData (name : String) (arguments : Option Bytes) : Except LedgerError Bytes :=
  match arguments with
  | some bs => .ok (instructionTag name ++ bs)
  | none => .error (.encode .tooLong)

/-- The accounts of the creation of a record. -/
structure CreateAccounts where
  record : Address
  wallet : Address
  authority : Address
  payer : Address
  /-- The mint of the token that items are paid in. -/
  tokenMint : Option Address

/-- Makes an account the record of some terms. -/
def create (program : Address) (a : CreateAccounts) (terms : Terms) :
    Except LedgerError Instruction := do
  let data ← instructionData "initialize_candy_machine" (Terms.codec.encode terms)
  let accounts : List AccountMeta :=
    [.writable a.record, .readOnly a.wallet, .readOnly a.authority, .writableSigner a.payer,
      .readOnly Address.systemProgram, .readOnly Address.rentAccount]
  pure ⟨program, accounts ++ (a.tokenMint.map .readOnly).toList, data⟩

/-- The layout of a line. -/
def lineCodec : Codec Line :=
  (Codec.text.pair Codec.text).iso (fun (name, uri) => ⟨name, uri⟩) (fun l => (l.name, l.uri))

/-- The layout of the arguments of `addLines`. -/
def linesCodec : Codec (UInt32 × List Line) := Codec.uint32.pair lineCodec.list

/-- Writes lines to a record from an index on. -/
def addLines (program record authority : Address) (index : UInt32) (lines : List Line) :
    Except LedgerError Instruction := do
  let data ← instructionData "add_config_lines" (linesCodec.encode (index, lines))
  pure ⟨program, [.writable record, .signer authority], data⟩

/-- The index of the first line that instruction data writes. -/
def linesIndex? (data : Bytes) : Option UInt32 :=
  if data.length < 12 ∨ data.take 8 ≠ instructionTag "add_config_lines" then none
  else some (UInt32.ofNat (Bytes.toNatLE ((data.drop 8).take 4)))

/-- The accounts of a mint. -/
structure MintAccounts where
  record : Address
  recordAuthority : Address
  payer : Address
  wallet : Address
  metadata : Address
  mint : Address
  mintAuthority : Address
  updateAuthority : Address
  masterEdition : Address
  metadataProgram : Address
  tokenProgram : Address
  deriving DecidableEq

/-- Mints an item from a record; `remaining` are the accounts that its terms ask for. -/
def mintItem (program : Address) (a : MintAccounts) (bump : UInt8) (remaining : List AccountMeta) :
    Except LedgerError Instruction := do
  let data ← instructionData "mint_nft" (Codec.uint8.encode bump)
  let accounts : List AccountMeta :=
    [.writable a.record, .readOnly a.recordAuthority, .writableSigner a.payer, .writable a.wallet,
      .writable a.metadata, .writable a.mint, .signer a.mintAuthority, .signer a.updateAuthority,
      .writable a.masterEdition, .readOnly a.metadataProgram, .readOnly a.tokenProgram,
      .readOnly Address.systemProgram, .readOnly Address.rentAccount, .readOnly Address.clockAccount,
      .readOnly Address.recentBlockhashesAccount, .readOnly Address.instructionsAccount]
  pure ⟨program, accounts ++ remaining, data⟩

/-- Moves the balance of a record to its authority. -/
def withdraw (program record authority : Address) : Instruction where
  program
  accounts := [.writable record, .writableSigner authority]
  data := instructionTag "withdraw_funds"

/-- Whether instruction data drains a record. -/
def isWithdraw (data : Bytes) : Bool :=
  8 ≤ data.length && data.take 8 = instructionTag "withdraw_funds"

end Record

end MintDrop
