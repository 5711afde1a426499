import MintDrop.Record.Layout

/-!
# Errors of ledger operations

A `LedgerError` is a reason why something could not be read from the ledger, written to it or prepared for
it, with its wording.
-/

namespace MintDrop

/-- Why an instruction cannot be encoded. -/
inductive EncodeFault
  /-- A text or list is too long to be counted in 32 bits. -/
  | tooLong
  /-- A token instruction is addressed to another program than the token program. -/
  | foreignProgram
  deriving DecidableEq

/-- The wording of a fault. -/
def EncodeFault.message : EncodeFault → String
  | .tooLong => "invalid data"
  | .foreignProgram => "The account did not have the expected program id"

/-- Why a ledger operation failed. -/
inductive LedgerError
  /-- The ledger could not be asked. -/
  | rpc (reason : String)
  /-- A transaction was submitted and refused. -/
  | transaction (reason : String)
  /-- A transaction could not be signed. -/
  | signing (reason : String)
  /-- A key file holds no key. -/
  | wallet (reason : String)
  /-- A text is no address. -/
  | invalidAddress (text : String)
  | encode (fault : EncodeFault)
  | decode (account : Address) (fault : Record.Fault)
  | accountNotFound (account : Address)
  deriving DecidableEq

/-- The word by which an error is reported. -/
def LedgerError.kind : LedgerError → String
  | .rpc _ => "Rpc"
  | .transaction _ => "Transaction"
  | .signing _ => "Signing"
  | .wallet _ => "Wallet"
  | .invalidAddress _ => "InvalidAddress"
  | .encode _ => "Encode"
  | .decode .. => "Decode"
  | .accountNotFound _ => "AccountNotFound"

/-- The wording of an error. -/
def LedgerError.message : LedgerError → String
  | .rpc reason => "RPC error: " ++ reason
  | .transaction reason => "Transaction failed: " ++ reason
  | .signing reason => "Signing error: " ++ reason
  | .wallet reason => "Wallet error: " ++ reason
  | .invalidAddress text => "Invalid address '" ++ text ++ "'"
  | .encode fault => "Encoding error: " ++ fault.message
  | .decode account fault =>
      "Decoding error for account " ++ account.toText ++ ": " ++ fault.message
  | .accountNotFound account => "Account " ++ account.toText ++ " not found"

/-- The address that a text spells. -/
def Address.parse (text : String) : Except LedgerError Address :=
  match Address.parse? text with
  | some a => .ok a
  | none => .error (.invalidAddress text)

/-- The record of an account. -/
def Record.read (account : Address) (data : Bytes) : Except LedgerError Record :=
  match Record.decode data with
  | .ok r => .ok r
  | .error fault => .error (.decode account fault)

end MintDrop
