import MintDrop.Mint.Plan

/-!
# The rules of a mint plan

`Mint.plan` makes the plan of one mint from what the record asks for.  Each rule extends the draft: the new
token, the whitelist, the payment in tokens and the invocation, in this order.
-/

namespace MintDrop.Mint

/-- What a record says about minting from it. -/
structure Settings where
  record : Address
  /-- The account that receives the payment. -/
  wallet : Address
  price : UInt64
  tokenMint : Option Address
  whitelist : Option Whitelist
  gatekeeper : Option Gatekeeper
  deriving DecidableEq

/-- The settings of a record at an address. -/
def Settings.ofRecord (address : Address) (r : Record) : Settings :=
  ⟨address, r.wallet, r.terms.price, r.tokenMint, r.terms.whitelist, r.terms.gatekeeper⟩

/-- What a plan is made from. -/
structure Context where
  settings : Settings
  buyer : Address
  /-- Whether the buyer has a token account for the whitelist's mint. -/
  whitelistAccountExists : Bool
  /-- The balance that the account of a mint must hold. -/
  mintRent : UInt64

/-- A rule: it extends a draft, with the programs, the supply of one-time keys and the context. -/
abbrev Rule := Derivation → (Nat → Keypair) → Context → Plan.Drafting Unit

open Plan.Draft (push addAccount addThrowaway approveScoped)

/-- Creates the mint, the buyer's token account and the one unit. -/
def newToken : Rule := fun programs _ c => do
  let mint := (← get).mint.address
  push (.create c.buyer mint c.mintRent)
  push (.initializeMint mint c.buyer)
  push (.createHolderAccount c.buyer c.buyer mint)
  push (.mintUnit mint (programs.holderAccount c.buyer mint) c.buyer)

/-- Adds the next one-time key of the supply. -/
def addNextThrowaway (keys : Nat → Keypair) : Plan.Drafting Address := do
  addThrowaway (keys (← get).throwaways.length)

/-- Shows the whitelist account, and lets a one-time key burn a token of it if that is asked for. -/
def whitelist : Rule := fun programs keys c =>
  match c.settings.whitelist with
  | none => pure ()
  | some w => do
      let account := programs.holderAccount c.buyer w.mint
      addAccount (.writable account)
      if w.mode = .burnEveryTime then
        let burner ← addNextThrowaway keys
        addAccount (.writable w.mint)
        addAccount (.signer burner)
        if c.whitelistAccountExists then approveScoped account burner 1

/-- Lets a one-time key pay the price in tokens. -/
def paymentToken : Rule := fun programs keys c =>
  match c.settings.tokenMint with
  | none => pure ()
  | some tokenMint => do
      let account := programs.holderAccount c.buyer tokenMint
      let payer ← addNextThrowaway keys
      addAccount (.writable account)
      addAccount (.signer payer)
      approveScoped account payer c.settings.price

/-- Places the invocation. -/
def invocation : Rule := fun programs _ c => do
  let mint := (← get).mint.address
  let authority := programs.recordAuthority c.settings.record
  Plan.Draft.invoke
    { record := c.settings.record
      recordAuthority := authority.1
      payer := c.buyer
      wallet := c.settings.wallet
      metadata := programs.metadata mint
      mint
      mintAuthority := c.buyer
      updateAuthority := c.buyer
      masterEdition := programs.masterEdition mint
      metadataProgram := programs.metadataProgram
      tokenProgram := programs.tokenProgram }
    authority.2

/-- The rules in the order in which they are applied. -/
def rules : List Rule := [newToken, whitelist, paymentToken, invocation]

/-- The plan of a mint at the address of a key, with a supply of one-time keys. -/
def plan (programs : Derivation) (c : Context) (mint : Keypair) (keys : Nat → Keypair) : Except Error Plan :=
  let start := Plan.Draft.new programs.recordProgram programs.tokenProgram c.buyer mint
  match (rules.forM fun rule => rule programs keys c).run start with
  | .ok _ d => d.finish
  | .error e _ => .error e

/-- The plan of a mint whose key is the first of the supply. -/
def planFresh (programs : Derivation) (c : Context) (keys : Nat → Keypair) : Except Error Plan :=
  plan programs c (keys 0) fun n => keys (n + 1)

end MintDrop.Mint
