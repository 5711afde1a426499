import MintDrop.Deployment.Basic
import MintDrop.Document.Basic
import MintDrop.Record.Layout
import MintDrop.Settings.Error

/-!
# Checking a document

`Document.problems` lists all that a document says wrong, without asking the ledger.
-/

namespace MintDrop.Document

/-- The problems of a name and a content address that must fit a record's line. -/
def lineProblems (field name uri : String) : List Problem :=
  Problem.when (Terms.maxName < Utf8.size name) (field ++ ".name")
      ("at most " ++ toString Terms.maxName ++ " bytes")
    ++ Problem.when (Terms.maxUri < Utf8.size uri) (field ++ ".uri")
      ("at most " ++ toString Terms.maxUri ++ " bytes")

/-- Whether a number is no price. -/
def isNoPrice (x : Float) : Bool := !x.isFinite || x < 0

/-- The name of an element of a list. -/
def element (field : String) (index : Nat) : String := field ++ "[" ++ toString index ++ "]"

/-- The problems of the numbers. -/
def numberProblems (d : Document) : List Problem :=
  Problem.when (d.number = 0) "number" "must be greater than 0"
    ++ Problem.when (Terms.maxSymbol < Utf8.size d.symbol) "symbol"
      ("at most " ++ toString Terms.maxSymbol ++ " bytes")
    ++ Problem.when (10000 < d.sellerFeeBasisPoints) "sellerFeeBasisPoints" "must be at most 10000"
    ++ Problem.when (isNoPrice d.price) "price" "must be a non-negative number"

/-- The problems of the creators. The record program adds itself, so that one place less is left. -/
def creatorProblems (d : Document) : List Problem :=
  let total := (d.creators.map (·.share.toNat)).foldr (· + ·) 0
  Problem.when (Terms.maxCreators - 1 < d.creators.length) "creators"
      ("at most " ++ toString (Terms.maxCreators - 1) ++ " creators")
    ++ (d.creators.zipIdx.flatMap fun (c, i) =>
      Problem.ofAddress (element "creators" i ++ ".address") c.address)
    ++ Problem.when (!d.creators.isEmpty && total ≠ 100) "creators"
      ("shares must sum to 100, got " ++ toString total)

/-- The problems of the accounts that take part in payments. -/
def paymentProblems (d : Document) : List Problem :=
  Problem.when (d.solTreasuryAccount.isSome && (d.splToken.isSome || d.splTokenAccount.isSome))
      "solTreasuryAccount" "cannot be set together with splToken or splTokenAccount"
    ++ Problem.when (d.splTokenAccount.isSome && d.splToken.isNone) "splTokenAccount"
      "splToken must also be set"
    ++ ([("splToken", d.splToken), ("splTokenAccount", d.splTokenAccount),
        ("solTreasuryAccount", d.solTreasuryAccount)].flatMap fun (field, value) =>
      (value.map (Problem.ofAddress field)).getD [])

/-- The problems of the gatekeeper. -/
def gatekeeperProblems (d : Document) : List Problem :=
  match d.gatekeeper with
  | none => []
  | some g => Problem.ofAddress "gatekeeper.gatekeeperNetwork" g.network

/-- The problems of the whitelist. -/
def whitelistProblems (d : Document) : List Problem :=
  match d.whitelist with
  | none => []
  | some w =>
      Problem.ofAddress "whitelistMintSettings.mint" w.mint
        ++ Problem.when (w.burnEveryTime = w.neverBurn) "whitelistMintSettings.mode"
          "exactly one of burnEveryTime or neverBurn must be set"
        ++ Problem.when (w.discountPrice.any isNoPrice) "whitelistMintSettings.discountPrice"
          "must be a non-negative number"

/-- The problems of the end. -/
def endProblems (d : Document) : List Problem :=
  match d.endSettings with
  | none => []
  | some e =>
      Problem.when (e.date = e.amount) "endSettings.endSettingType"
        "exactly one of date or amount must be set"

/-- The problems of the hidden items. -/
def hiddenProblems (d : Document) : List Problem :=
  Problem.when (d.hidden.isSome && d.sequel.isSome) "hiddenSettings"
      "cannot be combined with sequelSettings"
    ++ match d.hidden with
      | none => []
      | some h =>
          lineProblems "hiddenSettings" h.name h.uri
            ++ Problem.when (Utf8.size h.hash ≠ 32) "hiddenSettings.hash"
              ("must be exactly 32 bytes, got " ++ toString (Utf8.size h.hash))

/-- The problems of the naming template, whose longest line is the last one. -/
def sequelProblems (d : Document) : List Problem :=
  match d.sequel with
  | none => []
  | some s =>
      let line := (MintDrop.Sequel.line ⟨s.name, s.uri, s.mintsInOrder⟩ (d.number.toNat - 1))
      lineProblems "sequelSettings" line.name line.uri

/-- The problems of the items. -/
def itemProblems (d : Document) : List Problem :=
  match d.items with
  | none => []
  | some items =>
      Problem.when (d.number.toNat < items.length) "items"
          (toString items.length ++ " entries for " ++ toString d.number.toNat ++ " items")
        ++ items.zipIdx.flatMap fun (item, i) => lineProblems (element "items" i) item.name item.uri

/-- All problems, in the order in which they are reported. -/
def problems (d : Document) : List Problem :=
  numberProblems d ++ creatorProblems d ++ paymentProblems d ++ gatekeeperProblems d
    ++ whitelistProblems d ++ endProblems d ++ hiddenProblems d ++ sequelProblems d ++ itemProblems d

/-- Refuses a document that has problems. -/
def check (d : Document) : Except ConfigError Unit :=
  if d.problems.isEmpty then .ok () else .error (.invalid d.problems)

/-- The document of a file with some content. -/
def ofFile (content : Bytes) : Except ConfigError Document :=
  match Utf8.decode content with
  | .error _ => .error .unreadable
  | .ok _ => (ofJson content).mapError .json

end MintDrop.Document
