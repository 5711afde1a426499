import MintDrop.Keypair
import MintDrop.Record.Instruction

/-!
# Mint plans

A `Plan` is the list of operations of one mint, with the one-time keys that sign it beside the buyer.  A
`Plan.Draft` takes operations until the invocation of the record program is placed, and `Plan.Draft.finish`
puts after it the revocation of every approval.
-/

namespace MintDrop

namespace Mint

/-- Why nothing was minted. -/
inductive Error
  | recordNotFound (record : Address)
  /-- Something was to be placed after the invocation. -/
  | planSealed
  /-- An invocation or revocation was to be placed among the other operations. -/
  | misplacedOp
  | missingInvoke
  | ledger (e : LedgerError)
  deriving DecidableEq

/-- The word by which an error is reported. -/
def Error.kind : Error → String
  | .recordNotFound _ => "RecordNotFound"
  | .planSealed => "PlanSealed"
  | .misplacedOp => "MisplacedOp"
  | .missingInvoke => "MissingInvoke"
  | .ledger _ => "Blockchain"

/-- The wording of an error. -/
def Error.message : Error → String
  | .recordNotFound record => "configuration record " ++ record.toText ++ " not found"
  | .planSealed => "operation added after the mint invocation"
  | .misplacedOp => "invocation and revoke operations are placed by the builder"
  | .missingInvoke => "plan has no mint invocation"
  | .ledger e => e.message

/-- An operation of a mint. -/
inductive Op
  /-- Reserves the account of the new mint. -/
  | create (payer mint : Address) (lamports : UInt64)
  /-- Makes the account a mint of whole units. -/
  | initializeMint (mint authority : Address)
  /-- Creates the token account of the owner. -/
  | createHolderAccount (payer owner mint : Address)
  /-- Mints one unit. -/
  | mintUnit (mint holder authority : Address)
  /-- Lets a delegate spend from a token account. -/
  | approveDelegate (source delegate owner : Address) (amount : UInt64)
  /-- Calls the record program. -/
  | invoke (accounts : Record.MintAccounts) (bump : UInt8) (remaining : List AccountMeta)
  /-- Ends what `approveDelegate` allowed. -/
  | revokeDelegate (source owner : Address)
  deriving DecidableEq

/-- The instruction of an operation, for a record program and a token program. -/
def Op.instruction (program tokenProgram : Address) : Op → Except LedgerError Instruction
  | .create payer mint lamports =>
      .ok (System.createAccount payer mint lamports (UInt64.ofNat Token.mintSize) tokenProgram)
  | .initializeMint mint authority => Token.initializeMint tokenProgram mint authority
  | .createHolderAccount payer owner mint => .ok (Token.createHolderAccount tokenProgram payer owner mint)
  | .mintUnit mint holder authority => Token.mintTo tokenProgram mint holder authority 1
  | .approveDelegate source delegate owner amount =>
      Token.approve tokenProgram source delegate owner amount
  | .invoke accounts bump remaining => Record.mintItem program accounts bump remaining
  | .revokeDelegate source owner => Token.revoke tokenProgram source owner

end Mint

/-- The operations and the keys of one mint. -/
structure Plan where
  program : Address
  tokenProgram : Address
  buyer : Address
  ops : List Mint.Op
  /-- The key of the new mint. -/
  mint : Keypair
  /-- The one-time keys of delegates. -/
  throwaways : List Keypair
  deriving DecidableEq

namespace Plan

/-- The addresses that sign: the buyer, the mint and the throwaway keys. -/
def signerAddresses (p : Plan) : List Address :=
  p.buyer :: p.mint.address :: p.throwaways.map (·.address)

/-- The keys that sign, with the buyer's. -/
def signers (p : Plan) (buyer : Keypair) : List Keypair := buyer :: p.mint :: p.throwaways

/-- The instructions of the operations, in order. -/
def instructions (p : Plan) : Except LedgerError (List Instruction) :=
  p.ops.mapM (Mint.Op.instruction p.program p.tokenProgram)

/-- A plan that is being made. -/
structure Draft where
  program : Address
  tokenProgram : Address
  buyer : Address
  mint : Keypair
  throwaways : List Keypair
  /-- The operations before the invocation. -/
  head : List Mint.Op
  /-- The accounts that the invocation is to have beside its own. -/
  remaining : List AccountMeta
  invocation : Option Mint.Op
  /-- The operations after the invocation. -/
  revokes : List Mint.Op

/-- What is done to a draft: a result or an error, and the draft that is left in either case. -/
abbrev Drafting := EStateM Mint.Error Draft

namespace Draft

/-- A draft without operations. -/
def new (program tokenProgram buyer : Address) (mint : Keypair) : Draft :=
  ⟨program, tokenProgram, buyer, mint, [], [], [], none, []⟩

/-- Fails once the invocation is placed. -/
def ensureOpen : Drafting Unit := do
  if (← get).invocation.isSome then throw .planSealed

/-- Places an operation before the invocation. -/
def push (op : Mint.Op) : Drafting Unit := do
  ensureOpen
  match op with
  | .invoke .. | .revokeDelegate .. => throw .misplacedOp
  | op => modify fun d => { d with head := d.head ++ [op] }

/-- Gives the invocation one more account. -/
def addAccount (account : AccountMeta) : Drafting Unit := do
  ensureOpen
  modify fun d => { d with remaining := d.remaining ++ [account] }

/-- Adds a one-time key; the result is its address. -/
def addThrowaway (key : Keypair) : Drafting Address := do
  ensureOpen
  modify fun d => { d with throwaways := d.throwaways ++ [key] }
  pure key.address

/-- Lets a delegate spend from an account of the buyer until the invocation is over. -/
def approveScoped (source delegate : Address) (amount : UInt64) : Drafting Unit := do
  ensureOpen
  let owner := (← get).buyer
  modify fun d => { d with head := d.head ++ [.approveDelegate source delegate owner amount] }
  modify fun d => { d with revokes := d.revokes ++ [.revokeDelegate source owner] }

/-- Places the invocation, with the accounts added so far. -/
def invoke (accounts : Record.MintAccounts) (bump : UInt8) : Drafting Unit := do
  ensureOpen
  modify fun d => { d with invocation := some (.invoke accounts bump d.remaining), remaining := [] }

/-- The plan of a draft whose invocation is placed. -/
def finish (d : Draft) : Except Mint.Error Plan :=
  match d.invocation with
  | none => .error .missingInvoke
  | some op =>
      .ok ⟨d.program, d.tokenProgram, d.buyer, d.head ++ op :: d.revokes, d.mint, d.throwaways⟩

end Draft

end Plan

end MintDrop
