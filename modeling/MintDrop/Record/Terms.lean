import MintDrop.Address

/-!
# Configuration records

A `Record` is the account that configures a drop: who owns it, where payments go and how many items were
minted, together with the `Terms` of the drop, which are written once when the record is created.
-/

namespace MintDrop

/-- Someone who is credited with a share of later sales. -/
structure Creator where
  address : Address
  verified : Bool
  share : UInt8
  deriving DecidableEq

/-- What ends a drop. -/
inductive EndKind
  | date
  | amount
  deriving DecidableEq

/-- The end of a drop: a time in seconds or a number of items. -/
structure EndRule where
  kind : EndKind
  number : UInt64
  deriving DecidableEq

/-- One name and content for all items until they are revealed; `hash` commits to the true list. -/
structure HiddenItems where
  name : String
  uri : String
  hash : { bs : Bytes // bs.length = 32 }
  deriving DecidableEq

/-- What happens to a whitelist token when its holder mints. -/
inductive WhitelistMode
  /-- One token is burned with each mint. -/
  | burnEveryTime
  | neverBurn
  deriving DecidableEq

/-- Rights of the holders of a whitelist token. -/
structure Whitelist where
  mode : WhitelistMode
  mint : Address
  presale : Bool
  discountPrice : Option UInt64
  deriving DecidableEq

/-- A network whose gateway token a buyer needs. -/
structure Gatekeeper where
  network : Address
  expireOnUse : Bool
  deriving DecidableEq

/-- A template that names the items by their index; with `mintsInOrder` no items are uploaded. -/
structure Sequel where
  name : String
  uri : String
  mintsInOrder : Bool
  deriving DecidableEq

/-- The terms of a drop. -/
structure Terms where
  /-- The identity tag of the record. -/
  tag : String
  price : UInt64
  symbol : String
  sellerFeeBasisPoints : UInt16
  maxSupply : UInt64
  isMutable : Bool
  retainAuthority : Bool
  /-- The time in seconds from which everyone may mint. -/
  goLiveDate : Option Int64
  endRule : Option EndRule
  creators : List Creator
  hidden : Option HiddenItems
  whitelist : Option Whitelist
  itemsAvailable : UInt64
  gatekeeper : Option Gatekeeper
  sequel : Option Sequel
  deriving DecidableEq

/-- The account that configures a drop. -/
structure Record where
  authority : Address
  wallet : Address
  tokenMint : Option Address
  itemsRedeemed : UInt64
  terms : Terms
  deriving DecidableEq

/-- Whether the record holds no item lines: the items are hidden or named in order. -/
def Terms.skipsUpload (t : Terms) : Bool := t.hidden.isSome || t.sequel.any (·.mintsInOrder)

end MintDrop
