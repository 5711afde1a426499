import MintDrop.Mint.Rules
import MintDrop.Script

/-!
# Minting

`Mint.run` mints one item from a record for a buyer, with one transaction or none.
-/

namespace MintDrop.Mint

/-- A confirmed mint. -/
structure Receipt where
  signature : Signature
  mint : Address
  deriving DecidableEq

/-- Mints an item from a record, with a supply of new keys. -/
def run (programs : Derivation) (record : Address) (buyer : Keypair) (keys : Nat → Keypair) :
    ExceptT Error Script Receipt := do
  match ← Script.orElse (Script.account record) .ledger with
  | none => throw (.recordNotFound record)
  | some data =>
      let r ← Script.check (Record.read record data) .ledger
      let settings := Settings.ofRecord record r
      let whitelistAccountExists ← match settings.whitelist with
        | none => pure false
        | some w => do
            let account := programs.holderAccount buyer.address w.mint
            let found ← Script.orElse (Script.account account) .ledger
            pure found.isSome
      let mintRent ← Script.orElse (Script.rent Token.mintSize) .ledger
      let context : Context := ⟨settings, buyer.address, whitelistAccountExists, mintRent⟩
      let plan ← Script.check (planFresh programs context keys) id
      let instructions ← Script.check plan.instructions .ledger
      let signature ← Script.orElse
        (Script.submit ⟨buyer.address, plan.signers buyer, instructions⟩) .ledger
      pure ⟨signature, plan.mint.address⟩

end MintDrop.Mint
