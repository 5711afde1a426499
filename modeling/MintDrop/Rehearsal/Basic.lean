import MintDrop.Rehearsal.Failures
import MintDrop.Script
import MintDrop.Store.Storage

/-!
# Rehearsals

A `Rehearsal` is a ledger and a progress store that answer the calls of a script in memory, fail where that
is arranged, and log what reached them; the first part of a program that is ready goes on.
`Rehearsal.perform` runs a script to its end.
-/

namespace MintDrop

/-- A call that reached a rehearsal, with what it came to. -/
inductive Event
  | submitted (tx : Transaction) (error : Option LedgerError)
  /-- Whether the account was found. -/
  | account (a : Address) (found : Except LedgerError Bool)
  | rent (size : Nat)
  | owned (program authority : Address)
  /-- Whether the call succeeded, and whether there was progress. -/
  | loaded (slot : Slot) (succeeded found : Bool)
  | saved (slot : Slot) (succeeded : Bool) (p : Progress)

/-- A ledger and a progress store in memory. -/
structure Rehearsal where
  /-- The data of the accounts, the newest first. -/
  accounts : List (Address × Bytes)
  /-- The records by program and authority, the oldest first. -/
  owned : List ((Address × Address) × OwnedRecord)
  storage : Storage
  failures : Failures
  /-- The number of saves since failures were last arranged. -/
  saveAttempts : Nat
  /-- The number of confirmed transactions. -/
  confirmed : Nat
  /-- What reached the ledger and the store, the newest first. -/
  events : List Event

namespace Rehearsal

/-- A ledger without accounts and a storage. -/
def new (storage : Storage) : Rehearsal := ⟨[], [], storage, .none, 0, 0, []⟩

/-! ### Arranging -/

/-- The data of an account put in. -/
def putAccount (r : Rehearsal) (a : Address) (data : Bytes) : Rehearsal :=
  { r with accounts := (a, data) :: r.accounts }

/-- A record given to an authority. -/
def own (r : Rehearsal) (program authority : Address) (record : OwnedRecord) : Rehearsal :=
  { r with owned := r.owned ++ [((program, authority), record)] }

/-- More failures arranged. -/
def fail (r : Rehearsal) (f : Failures) : Rehearsal :=
  { r with failures := r.failures.merge f, saveAttempts := 0 }

/-- No failures arranged any more. -/
def clear (r : Rehearsal) : Rehearsal := { r with failures := .none, saveAttempts := 0 }

/-- Progress stored without failing or being logged. -/
def seed (r : Rehearsal) (slot : Slot) (p : Progress) : Rehearsal :=
  { r with storage := (r.storage.save slot p).2 }

/-! ### Answering -/

/-- The rehearsal with one more event. -/
def log (r : Rehearsal) (e : Event) : Rehearsal := { r with events := e :: r.events }

/-- The balance that an account of a size must hold. -/
def rentOf (size : Nat) : UInt64 := UInt64.ofNat (890880 + 6960 * size)

/-- The signature of the confirmed transaction with a number. -/
def signature (number : Nat) : Signature := (List.replicate 8 (Bytes.ofNatLE 8 number)).flatten

/-- The answer to a submission. -/
def submit (r : Rehearsal) (tx : Transaction) : Except LedgerError Signature × Rehearsal :=
  match r.failures.refuse? tx.instructions with
  | some e => (.error e, r.log (.submitted tx (some e)))
  | none =>
      let number := r.confirmed + 1
      (.ok (signature number), { r with confirmed := number }.log (.submitted tx none))

/-- The answer to a question about an account. -/
def lookup (r : Rehearsal) (a : Address) : Except LedgerError (Option Bytes) × Rehearsal :=
  let answer := if r.failures.lookups.contains a then .error (.rpc "injected lookup failure")
    else .ok (r.accounts.lookup a)
  (answer, r.log (.account a (answer.map Option.isSome)))

/-- The answer to a load. -/
def load (r : Rehearsal) (slot : Slot) : Except StoreError (Option Progress) × Rehearsal :=
  let answer := if r.failures.loads then .error (Failures.storeError "load") else r.storage.load slot
  match answer with
  | .ok p => (.ok p, r.log (.loaded slot true p.isSome))
  | .error e => (.error e, r.log (.loaded slot false false))

/-- The answer to a save. -/
def save (r : Rehearsal) (slot : Slot) (p : Progress) : Except StoreError Unit × Rehearsal :=
  let number := r.saveAttempts + 1
  let (answer, storage) :=
    if r.failures.saves.contains number then (.error (Failures.storeError "save"), r.storage)
    else r.storage.save slot p
  (answer, { r with saveAttempts := number, storage }.log (.saved slot answer.toBool p))

/-- The answer to a call. -/
def answer (c : Call) : StateM Rehearsal c.Reply := fun r =>
  match c with
  | .account a => r.lookup a
  | .rent size =>
      (if r.failures.rent then .error (.rpc "injected rent failure") else .ok (rentOf size),
        r.log (.rent size))
  | .owned program authority =>
      (if r.failures.owned then .error (.rpc "injected enumeration failure")
        else .ok ((r.owned.filter (·.1 = (program, authority))).map (·.2)),
        r.log (.owned program authority))
  | .submit tx => r.submit tx
  | .load slot => r.load slot
  | .save slot p => r.save slot p
  | .turn others => (⟨0, others.succ_pos⟩, r)

/-- A script run to its end: its result, and the rehearsal after it with the events of this run alone. -/
def perform {ε α : Type} (r : Rehearsal) (script : ExceptT ε Script α) : Except ε α × Rehearsal :=
  (Script.run answer script.run).run { r with events := [] }

end Rehearsal

end MintDrop
