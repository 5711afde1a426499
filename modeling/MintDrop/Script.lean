import MintDrop.Keypair
import MintDrop.Ledger.Instruction
import MintDrop.Progress.Basic
import MintDrop.Store.Basic

/-!
# Scripts

A `Script` is a program that talks to the ledger and to the progress store: a tree of calls, each with the
rest of the program for every reply.  A program of several parts asks whose turn it is, so that the replies
also say how the parts interleave.  `Script.run` answers the calls by a function; whatever is true of all
answers is true of every ledger and every store.  A sequence of scripts runs as the sequence of the runs
(`Script.run_bind`).
-/

namespace MintDrop

/-- The proof that the ledger confirmed a transaction. -/
abbrev Signature := Bytes

/-- Instructions that take effect together, with the keys that sign them. -/
structure Transaction where
  payer : Address
  signers : List Keypair
  instructions : List Instruction
  deriving DecidableEq

/-- A record of an authority, with its balance. -/
structure OwnedRecord where
  address : Address
  lamports : UInt64
  deriving DecidableEq

/-- What a program asks of the ledger and of the progress store. -/
inductive Call
  /-- The data of an account. -/
  | account (a : Address)
  /-- The balance that an account of a size must hold. -/
  | rent (size : Nat)
  /-- The records of a program that belong to an authority. -/
  | owned (program authority : Address)
  /-- The confirmation of a transaction. -/
  | submit (tx : Transaction)
  | load (slot : Slot)
  | save (slot : Slot) (p : Progress)
  /-- Which of the parts of the program that are ready goes on: the first, or one of the `others`. -/
  | turn (others : Nat)

/-- The kind of answer to a call. -/
def Call.Reply : Call → Type
  | .account _ => Except LedgerError (Option Bytes)
  | .rent _ => Except LedgerError UInt64
  | .owned _ _ => Except LedgerError (List OwnedRecord)
  | .submit _ => Except LedgerError Signature
  | .load _ => Except StoreError (Option Progress)
  | .save _ _ => Except StoreError Unit
  | .turn others => Fin (others + 1)

/-- A program that talks to the ledger and to the progress store. -/
inductive Script (α : Type)
  | done (a : α)
  | call (c : Call) (next : c.Reply → Script α)

namespace Script

/-- One script after another. -/
def bind {α β : Type} : Script α → (α → Script β) → Script β
  | .done a, f => f a
  | .call c next, f => .call c fun reply => bind (next reply) f

instance : Monad Script where
  pure := .done
  bind := bind

theorem bind_assoc {α β γ : Type} (s : Script α) (f : α → Script β) (g : β → Script γ) :
    (s.bind f).bind g = s.bind fun a => (f a).bind g := by
  induction s with
  | done a => rfl
  | call c next ih => exact congrArg (Script.call c) (funext fun reply => ih reply)

theorem bind_done {α : Type} (s : Script α) : s.bind .done = s := by
  induction s with
  | done a => rfl
  | call c next ih => exact congrArg (Script.call c) (funext fun reply => ih reply)

instance : LawfulMonad Script :=
  LawfulMonad.mk' Script (fun s => bind_done s) (fun _ _ => rfl) (fun s f g => bind_assoc s f g)

/-- A script run with answers from a monad. -/
def run {m : Type → Type} [Monad m] {α : Type} (answer : (c : Call) → m c.Reply) : Script α → m α
  | .done a => pure a
  | .call c next => do
      let reply ← answer c
      run answer (next reply)

theorem run_bind {m : Type → Type} [Monad m] [LawfulMonad m] {α β : Type}
    (answer : (c : Call) → m c.Reply) (s : Script α) (f : α → Script β) :
    run answer (s >>= f) = run answer s >>= fun a => run answer (f a) := by
  induction s with
  | done a =>
      show run answer (f a) = (pure a : m α) >>= fun a => run answer (f a)
      rw [LawfulMonad.pure_bind]
  | call c next ih =>
      show (answer c >>= fun reply => run answer (next reply >>= f))
        = (answer c >>= fun reply => run answer (next reply)) >>= fun a => run answer (f a)
      rw [LawfulMonad.bind_assoc]
      exact congrArg (answer c >>= ·) (funext fun reply => ih reply)

/-- A single call. -/
def ask (c : Call) : Script c.Reply := .call c .done

/-! ### Calls that may fail -/

/-- Asks for the data of an account. -/
def account (a : Address) : ExceptT LedgerError Script (Option Bytes) := ask (.account a)

/-- Asks for the balance that an account of a size must hold. -/
def rent (size : Nat) : ExceptT LedgerError Script UInt64 := ask (.rent size)

/-- Asks for the records of an authority. -/
def owned (program authority : Address) : ExceptT LedgerError Script (List OwnedRecord) :=
  ask (.owned program authority)

/-- Submits a transaction. -/
def submit (tx : Transaction) : ExceptT LedgerError Script Signature := ask (.submit tx)

/-- Loads the progress of a slot. -/
def load (slot : Slot) : ExceptT StoreError Script (Option Progress) := ask (.load slot)

/-- Saves the progress of a slot. -/
def save (slot : Slot) (p : Progress) : ExceptT StoreError Script Unit := ask (.save slot p)

/-- A step that may fail, with its error seen as another one. -/
def orElse {ε ε' α : Type} (step : ExceptT ε Script α) (wrap : ε → ε') : ExceptT ε' Script α :=
  ExceptT.mk do
    match ← step.run with
    | .ok a => pure (.ok a)
    | .error e => pure (.error (wrap e))

/-- A result, with its error seen as another one. -/
def check {ε ε' α : Type} (result : Except ε α) (wrap : ε → ε') : ExceptT ε' Script α :=
  ExceptT.mk (pure (result.mapError wrap))

end Script

end MintDrop
