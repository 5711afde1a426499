import MintDrop.Ledger.Instruction
import MintDrop.Record.Instruction
import MintDrop.Store.Basic

/-!
# Arranged failures

`Failures` say which calls of a rehearsal fail.
-/

namespace MintDrop

/-- The kind of error with which a submission is refused. -/
inductive Refusal
  | rpc
  | signing
  | transaction
  deriving DecidableEq

/-- The error of a refusal. -/
def Refusal.error : Refusal → String → LedgerError
  | .rpc, reason => .rpc reason
  | .signing, reason => .signing reason
  | .transaction, reason => .transaction reason

/-- The calls that fail. -/
structure Failures where
  /-- Whether every submission is refused. -/
  all : Bool
  refusal : Refusal
  /-- The first indices of the groups whose submission is refused. -/
  lines : List UInt32
  /-- The records whose withdrawal is refused. -/
  withdrawals : List Address
  /-- The accounts whose data cannot be read. -/
  lookups : List Address
  rent : Bool
  owned : Bool
  loads : Bool
  /-- The numbers of the saves that fail, counted from one. -/
  saves : List Nat
  deriving DecidableEq

namespace Failures

/-- No failures. -/
def none : Failures := ⟨false, .transaction, [], [], [], false, false, false, []⟩

/-- All failures of two arrangements, with the refusal of the second. -/
def merge (a b : Failures) : Failures where
  all := a.all || b.all
  refusal := b.refusal
  lines := a.lines ++ b.lines
  withdrawals := a.withdrawals ++ b.withdrawals
  lookups := a.lookups ++ b.lookups
  rent := a.rent || b.rent
  owned := a.owned || b.owned
  loads := a.loads || b.loads
  saves := a.saves ++ b.saves

/-- Why an instruction is refused. -/
def reason? (f : Failures) (i : Instruction) : Option String :=
  match (Record.linesIndex? i.data).filter f.lines.contains with
  | some index => some ("injected failure at index " ++ toString index.toNat)
  | .none =>
      match (i.accounts.head?.map (·.address)).filter f.withdrawals.contains with
      | some record =>
          if Record.isWithdraw i.data then some ("injected withdraw failure for " ++ record.toText)
          else .none
      | .none => .none

/-- The error with which instructions are refused. -/
def refuse? (f : Failures) (is : List Instruction) : Option LedgerError :=
  let reason := if f.all then some "injected failure" else is.findSome? f.reason?
  reason.map f.refusal.error

/-- The error of a store that fails as arranged. -/
def storeError (verb : String) : StoreError := .io "mock" (.other ("injected " ++ verb ++ " failure"))

end Failures

end MintDrop
