import MintDrop.Calendar.Formats
import MintDrop.Deployment.Basic
import MintDrop.Document.Check
import MintDrop.Entries
import MintDrop.Number.Rounding
import MintDrop.Script

/-!
# Resolving a document

`Document.resolve` makes a checked document a `Deployment`: it scales the prices to the smallest unit, finds
out where payments go, asks the ledger whether the payment accounts are what they should be, and reads the
dates.
-/

namespace MintDrop.Document

/-- A failure in a single field. -/
def single (field message : String) : ConfigError := .invalid [⟨field, message⟩]

/-- The number of decimals of the ledger's own currency. -/
def nativeDecimals : UInt8 := 9

/-- A price in the smallest unit of a currency. -/
def scalePrice (price : Float) (decimals : UInt8) : UInt64 :=
  UInt64.ofNatClamp (Double.round (price * Double.tenPower 10 1 decimals.toNat))

/-! ### Payment -/

/-- An address of the document. -/
def readAddress (text : String) : Except ConfigError Address := (Address.parse text).mapError .ledger

/-- Checks the mint and the account of a payment token: the number of decimals. -/
def checkPayment (mint account : Address) : ExceptT ConfigError Script UInt8 := do
  let some mintData ← Script.orElse (Script.account mint) .ledger
    | throw (single "splToken" ("mint " ++ mint.toText ++ " does not exist"))
  let some decimals := Token.decimals? mintData
    | throw (single "splToken" (mint.toText ++ " is not an initialized mint"))
  let some accountData ← Script.orElse (Script.account account) .ledger
    | throw (single "splTokenAccount" ("token account " ++ account.toText ++ " does not exist"))
  let some accountMint := Token.accountMint? accountData
    | throw (single "splTokenAccount" (account.toText ++ " is not an initialized token account"))
  if accountMint ≠ mint then
    throw (single "splTokenAccount"
      ("token account mint (" ++ accountMint.toText ++ ") does not match splToken " ++ mint.toText))
  pure decimals

/-- Where payments go. -/
structure Payment where
  treasury : Address
  tokenMint : Option Address
  decimals : UInt8

/-- Where payments to a payer's drop go. -/
def payment (d : Document) (payer : Address) : ExceptT ConfigError Script Payment :=
  match d.splToken with
  | some token => do
      let mint ← Script.check (readAddress token) id
      let account ← match d.splTokenAccount with
        | some account => Script.check (readAddress account) id
        | none => pure ((Derivation.standard Address.recordProgram).holderAccount payer mint)
      let decimals ← checkPayment mint account
      pure ⟨account, some mint, decimals⟩
  | none => do
      let treasury ← match d.solTreasuryAccount with
        | some account => Script.check (readAddress account) id
        | none => pure payer
      pure ⟨treasury, none, nativeDecimals⟩

/-! ### Dates and amounts -/

/-- The go-live date. -/
def goLive (now : Int) (d : Document) : Except ConfigError (Option Int64) :=
  match d.goLiveDate with
  | none => .ok none
  | some text =>
      match Calendar.parseSeconds? now text with
      | some seconds => .ok (some (Int64.ofInt seconds))
      | none => .error (single "goLiveDate" ("unparseable date '" ++ text ++ "'"))

/-- A number of 64 bits in decimal, with an optional plus sign. -/
def amount? (cs : List Char) : Option UInt64 :=
  (Natural.ofText? cs).bind fun n => if n < UInt64.size then some (UInt64.ofNat n) else none

/-- The end of the drop. -/
def endRule (now : Int) (d : Document) : Except ConfigError (Option EndRule) :=
  match d.endSettings with
  | none => .ok none
  | some e =>
      if e.date then
        let text := match e.value with
          | .text s => s
          | _ => ""
        match Calendar.parseSeconds? now text with
        | some seconds => .ok (some ⟨.date, UInt64.ofNat seconds.toNat⟩)
        | none => .error (single "endSettings.value" ("unparseable date '" ++ text ++ "'"))
      else
        let amount := match e.value with
          | .whole n => if 0 ≤ n ∧ n < UInt64.size then some (UInt64.ofNat n.toNat) else none
          | .text s => amount? (Text.trimChars s.toList)
          | .other => none
        match amount with
        | some n => .ok (some ⟨.amount, n⟩)
        | none => .error (single "endSettings.value" "amount must be a non-negative integer")

/-! ### The other parts -/

/-- The hidden items. -/
def hiddenItems (d : Document) : Except ConfigError (Option MintDrop.HiddenItems) :=
  match d.hidden with
  | none => .ok none
  | some h =>
      if size : (Utf8.encode h.hash).length = 32 then .ok (some ⟨h.name, h.uri, ⟨Utf8.encode h.hash, size⟩⟩)
      else .error (single "hiddenSettings.hash" "must be exactly 32 bytes")

/-- The whitelist, with the discount in a currency of some decimals. -/
def whitelistRights (decimals : UInt8) (d : Document) : Except ConfigError (Option MintDrop.Whitelist) :=
  match d.whitelist with
  | none => .ok none
  | some w => do
      let mint ← readAddress w.mint
      pure (some ⟨if w.burnEveryTime then .burnEveryTime else .neverBurn, mint, w.presale,
        w.discountPrice.map (scalePrice · decimals)⟩)

/-- The gatekeeper. -/
def gatekeeperRule (d : Document) : Except ConfigError (Option MintDrop.Gatekeeper) :=
  match d.gatekeeper with
  | none => .ok none
  | some g => do
      let network ← readAddress g.network
      pure (some ⟨network, g.expireOnUse⟩)

/-- The creators. -/
def creatorList (d : Document) : Except ConfigError (List MintDrop.Creator) :=
  d.creators.mapM fun c => do
    let address ← readAddress c.address
    pure ⟨address, c.verified, c.share⟩

/-- The terms of a document whose payment is known. -/
def terms (now : Int) (d : Document) (decimals : UInt8) : Except ConfigError Terms := do
  let goLiveDate ← goLive now d
  let endRule ← endRule now d
  let hidden ← hiddenItems d
  let whitelist ← whitelistRights decimals d
  let gatekeeper ← gatekeeperRule d
  let creators ← creatorList d
  pure
    { tag := ""
      price := scalePrice d.price decimals
      symbol := d.symbol
      sellerFeeBasisPoints := d.sellerFeeBasisPoints
      maxSupply := 0
      isMutable := !d.noMutable
      retainAuthority := !d.noRetainAuthority
      goLiveDate, endRule, creators, hidden, whitelist
      itemsAvailable := d.number
      gatekeeper
      sequel := d.sequel.map fun s => ⟨s.name, s.uri, s.mintsInOrder⟩ }

/-- The listed items by their index, which is their place as a number of 32 bits. -/
def catalogue (d : Document) : List (UInt32 × Line) :=
  Entries.ofList ((d.items.getD []).mapIdx fun i item => (UInt32.ofNat i, ⟨item.name, item.uri⟩))

/-- The deployment that a document describes for a payer at a time. -/
def resolve (now : Int) (d : Document) (payer : Address) : ExceptT ConfigError Script Deployment := do
  Script.check d.check id
  let payment ← payment d payer
  let terms ← Script.check (terms now d payment.decimals) id
  pure
    { terms
      treasury := payment.treasury
      tokenMint := payment.tokenMint
      catalogue := d.catalogue }

end MintDrop.Document
