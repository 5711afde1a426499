import MintDrop.Record.Instruction
import MintDrop.Script
import MintDrop.Withdraw.Charity

/-!
# Sweeps

`Sweep.run` withdraws the balances of all records of an authority, each in a transaction of its own, so that
one refusal does not stop the others.  A dry run only adds up what a sweep would move.
-/

namespace MintDrop.Sweep

/-- The records of the authority could not be found out. -/
structure Error where
  cause : LedgerError

/-- The wording of the error. -/
def Error.message (e : Error) : String := "failed to enumerate owned records: " ++ e.cause.message

/-- A record that was not withdrawn. -/
structure Failure where
  record : Address
  cause : LedgerError

/-- The outcome of a sweep. -/
structure Report where
  dryRun : Bool
  recordCount : Nat
  /-- The sum of all balances. -/
  total : UInt64
  /-- The sum of the donations, computed or made. -/
  donation : UInt64
  /-- The number of records that are drained or were empty. -/
  succeeded : Nat
  failures : List Failure

/-- Whether no record failed. -/
def Report.success (r : Report) : Bool := r.failures.isEmpty

/-- The sum of some amounts. -/
def sum (amounts : List UInt64) : UInt64 := amounts.foldl (· + ·) 0

/-- The donation that a balance owes. -/
def donation (charity : Option CharityShare) (lamports : UInt64) : UInt64 :=
  (charity.map (·.donation lamports)).getD 0

/-- The transaction that withdraws a record, its donation first. -/
def transaction (program : Address) (authority : Keypair) (charity : Option CharityShare)
    (r : OwnedRecord) : Transaction :=
  let amount := donation charity r.lamports
  let gift := match charity with
    | some c => if 0 < amount then [System.transfer authority.address c.address amount] else []
    | none => []
  ⟨authority.address, [authority], gift ++ [Record.withdraw program r.address authority.address]⟩

/-- Withdraws records one after another, adding to a report. -/
def withdrawAll (program : Address) (authority : Keypair) (charity : Option CharityShare) :
    List OwnedRecord → Report → Script Report
  | [], report => pure report
  | r :: rs, report =>
      if r.lamports = 0 then
        withdrawAll program authority charity rs { report with succeeded := report.succeeded + 1 }
      else do
        match ← (Script.submit (transaction program authority charity r)).run with
        | .ok _ =>
            withdrawAll program authority charity rs
              { report with
                succeeded := report.succeeded + 1
                donation := report.donation + donation charity r.lamports }
        | .error e =>
            withdrawAll program authority charity rs
              { report with failures := report.failures ++ [⟨r.address, e⟩] }

/-- Withdraws the records of an authority, or with `dryRun` only adds up. -/
def run (program : Address) (authority : Keypair) (charity : Option CharityShare) (dryRun : Bool) :
    ExceptT Error Script Report := do
  let records ← Script.orElse (Script.owned program authority.address) Error.mk
  let total := sum (records.map (·.lamports))
  if dryRun then
    pure ⟨true, records.length, total, sum (records.map fun r => donation charity r.lamports), records.length, []⟩
  else
    liftM (withdrawAll program authority charity records ⟨false, records.length, total, 0, 0, []⟩)

end MintDrop.Sweep
