import MintDrop.Json.Reader

/-!
# Deployment documents

A `Document` is the JSON text in which an operator describes a drop, read but not yet checked.
-/

namespace MintDrop

namespace Document

/-- A creator as it is written. -/
structure Creator where
  address : String
  verified : Bool
  share : UInt8

/-- A gatekeeper as it is written. -/
structure Gatekeeper where
  network : String
  expireOnUse : Bool

/-- The end of a drop as it is written: a date, or an amount of items. -/
structure EndSettings where
  date : Bool
  amount : Bool
  value : Json.Scalar

/-- Hidden items as they are written. -/
structure HiddenItems where
  name : String
  uri : String
  hash : String

/-- A whitelist as it is written. -/
structure Whitelist where
  burnEveryTime : Bool
  neverBurn : Bool
  mint : String
  presale : Bool
  discountPrice : Option Float

/-- A naming template as it is written. -/
structure Sequel where
  name : String
  uri : String
  mintsInOrder : Bool

/-- An item as it is written. -/
structure Item where
  name : String
  uri : String

end Document

/-- The description of a drop. -/
structure Document where
  /-- The number of items. -/
  number : UInt64
  symbol : String
  sellerFeeBasisPoints : UInt16
  creators : List Document.Creator
  noRetainAuthority : Bool
  noMutable : Bool
  /-- The price in whole units of the currency. -/
  price : Float
  /-- The mint of the token that items are paid in. -/
  splToken : Option String
  /-- The account that receives the tokens. -/
  splTokenAccount : Option String
  /-- The account that receives the lamports. -/
  solTreasuryAccount : Option String
  gatekeeper : Option Document.Gatekeeper
  endSettings : Option Document.EndSettings
  hidden : Option Document.HiddenItems
  whitelist : Option Document.Whitelist
  sequel : Option Document.Sequel
  goLiveDate : Option String
  items : Option (List Document.Item)

namespace Document

/-! ### Reading -/

/-- Reads a creator. -/
def creatorReader : Json.Reader Creator :=
  Json.fields "struct RawCreator"
    [Json.field "address" .required Json.text fun c s => { c with address := s },
      Json.field "verified" .defaulted Json.boolean fun c b => { c with verified := b },
      Json.field "share" .required Json.uint8 fun c n => { c with share := n }]
    ⟨"", false, 0⟩

/-- Reads a gatekeeper. -/
def gatekeeperReader : Json.Reader Gatekeeper :=
  Json.fields "struct RawGatekeeper"
    [Json.field "gatekeeperNetwork" .required Json.text fun g s => { g with network := s },
      Json.field "expireOnUse" .defaulted Json.boolean fun g b => { g with expireOnUse := b }]
    ⟨"", false⟩

/-- Reads which kind of end is meant: a date and an amount. -/
def endKindReader : Json.Reader (Bool × Bool) :=
  Json.fields "struct RawEndSettingType"
    [Json.field "date" .defaulted Json.boolean fun k b => (b, k.2),
      Json.field "amount" .defaulted Json.boolean fun k b => (k.1, b)]
    (false, false)

/-- Reads the end of a drop. -/
def endSettingsReader : Json.Reader EndSettings :=
  Json.fields "struct RawEndSettings"
    [Json.field "endSettingType" .required endKindReader fun e k =>
        { e with date := k.1, amount := k.2 },
      Json.field "value" .required Json.scalar fun e v => { e with value := v }]
    ⟨false, false, .other⟩

/-- Reads hidden items. -/
def hiddenReader : Json.Reader HiddenItems :=
  Json.fields "struct RawHiddenSettings"
    [Json.field "name" .required Json.text fun h s => { h with name := s },
      Json.field "uri" .required Json.text fun h s => { h with uri := s },
      Json.field "hash" .required Json.text fun h s => { h with hash := s }]
    ⟨"", "", ""⟩

/-- Reads the mode of a whitelist: whether each mint burns a token, and whether none does. -/
def whitelistModeReader : Json.Reader (Bool × Bool) :=
  Json.fields "struct RawWhitelistMode"
    [Json.field "burnEveryTime" .defaulted Json.boolean fun m b => (b, m.2),
      Json.field "neverBurn" .defaulted Json.boolean fun m b => (m.1, b)]
    (false, false)

/-- Reads a whitelist. -/
def whitelistReader : Json.Reader Whitelist :=
  Json.fields "struct RawWhitelistSettings"
    [Json.field "mode" .required whitelistModeReader fun w m =>
        { w with burnEveryTime := m.1, neverBurn := m.2 },
      Json.field "mint" .required Json.text fun w s => { w with mint := s },
      Json.field "presale" .defaulted Json.boolean fun w b => { w with presale := b },
      Json.field "discountPrice" .optional (Json.optional Json.float) fun w x =>
        { w with discountPrice := x }]
    ⟨false, false, "", false, none⟩

/-- Reads a naming template. -/
def sequelReader : Json.Reader Sequel :=
  Json.fields "struct RawSequelSettings"
    [Json.field "name" .required Json.text fun s n => { s with name := n },
      Json.field "uri" .required Json.text fun s u => { s with uri := u },
      Json.field "sequelMint" .defaulted Json.boolean fun s b => { s with mintsInOrder := b }]
    ⟨"", "", false⟩

/-- Reads an item. -/
def itemReader : Json.Reader Item :=
  Json.fields "struct RawItem"
    [Json.field "name" .required Json.text fun i s => { i with name := s },
      Json.field "uri" .required Json.text fun i s => { i with uri := s }]
    ⟨"", ""⟩

/-- A document that says nothing. -/
def blank : Document :=
  ⟨0, "", 0, [], false, false, 0, none, none, none, none, none, none, none, none, none, none⟩

/-- The fields of a document in the order of its list form. -/
def documentFields : List (Json.Field Document) :=
  [Json.field "number" .required Json.uint64 fun d n => { d with number := n },
    Json.field "symbol" .defaulted Json.text fun d s => { d with symbol := s },
    Json.field "sellerFeeBasisPoints" .defaulted Json.uint16 fun d n =>
      { d with sellerFeeBasisPoints := n },
    Json.field "creators" .defaulted (Json.list creatorReader) fun d cs => { d with creators := cs },
    Json.field "noRetainAuthority" .defaulted Json.boolean fun d b => { d with noRetainAuthority := b },
    Json.field "noMutable" .defaulted Json.boolean fun d b => { d with noMutable := b },
    Json.field "price" .required Json.float fun d x => { d with price := x },
    Json.field "splToken" .optional (Json.optional Json.text) fun d s => { d with splToken := s },
    Json.field "splTokenAccount" .optional (Json.optional Json.text) fun d s =>
      { d with splTokenAccount := s },
    Json.field "solTreasuryAccount" .optional (Json.optional Json.text) fun d s =>
      { d with solTreasuryAccount := s },
    Json.field "gatekeeper" .optional (Json.optional gatekeeperReader) fun d g =>
      { d with gatekeeper := g },
    Json.field "endSettings" .optional (Json.optional endSettingsReader) fun d e =>
      { d with endSettings := e },
    Json.field "hiddenSettings" .optional (Json.optional hiddenReader) fun d h => { d with hidden := h },
    Json.field "whitelistMintSettings" .optional (Json.optional whitelistReader) fun d w =>
      { d with whitelist := w },
    { Json.field "sequelSettings" .optional (Json.optional sequelReader) fun d s =>
        { d with sequel := s } with aliases := ["cometMintSettings"] },
    Json.field "goLiveDate" .optional (Json.optional Json.text) fun d s => { d with goLiveDate := s },
    Json.field "items" .optional (Json.optional (Json.list itemReader)) fun d is => { d with items := is }]

/-- The description that a JSON text holds. -/
def ofJson (content : Bytes) : Except Json.Fault Document :=
  Json.document (Json.fields "struct RawDeploymentConfig" documentFields blank) content

end Document

end MintDrop
