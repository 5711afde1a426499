import MintDrop.Codec
import MintDrop.Digest.Sha2
import MintDrop.Record.Terms

/-!
# The layout of a record's account

The account begins with a discriminator of eight bytes, then holds the record, then as many item lines as
the drop has items.  `Record.encode` and `Record.decode` are the two directions of the first two parts, and
`Terms.accountSize` is the size that must be reserved for all three.
-/

namespace MintDrop

namespace Terms

/-! ### Codecs of the parts -/

/-- The layout of a creator. -/
def creatorCodec : Codec Creator :=
  (Codec.address.pair (Codec.boolean.pair Codec.uint8)).iso
    (fun (address, verified, share) => ⟨address, verified, share⟩)
    (fun c => (c.address, c.verified, c.share))

/-- The layout of an end rule. -/
def endRuleCodec : Codec EndRule :=
  ((Codec.variant [EndKind.date, .amount]).pair Codec.uint64).iso
    (fun (kind, number) => ⟨kind, number⟩) (fun e => (e.kind, e.number))

/-- The layout of hidden items. -/
def hiddenCodec : Codec HiddenItems :=
  (Codec.text.pair (Codec.text.pair (Codec.bytes 32))).iso
    (fun (name, uri, hash) => ⟨name, uri, hash⟩) (fun h => (h.name, h.uri, h.hash))

/-- The layout of a whitelist. -/
def whitelistCodec : Codec Whitelist :=
  ((Codec.variant [WhitelistMode.burnEveryTime, .neverBurn]).pair
      (Codec.address.pair (Codec.boolean.pair Codec.uint64.option))).iso
    (fun (mode, mint, presale, discountPrice) => ⟨mode, mint, presale, discountPrice⟩)
    (fun w => (w.mode, w.mint, w.presale, w.discountPrice))

/-- The layout of a gatekeeper. -/
def gatekeeperCodec : Codec Gatekeeper :=
  (Codec.address.pair Codec.boolean).iso
    (fun (network, expireOnUse) => ⟨network, expireOnUse⟩) (fun g => (g.network, g.expireOnUse))

/-- The layout of a sequel. -/
def sequelCodec : Codec Sequel :=
  (Codec.text.pair (Codec.text.pair Codec.boolean)).iso
    (fun (name, uri, mintsInOrder) => ⟨name, uri, mintsInOrder⟩)
    (fun s => (s.name, s.uri, s.mintsInOrder))

/-- The layout of the terms. -/
def codec : Codec Terms :=
  (Codec.text.pair <| Codec.uint64.pair <| Codec.text.pair <| Codec.uint16.pair <| Codec.uint64.pair <|
    Codec.boolean.pair <| Codec.boolean.pair <| Codec.int64.option.pair <| endRuleCodec.option.pair <|
    creatorCodec.list.pair <| hiddenCodec.option.pair <| whitelistCodec.option.pair <|
    Codec.uint64.pair <| gatekeeperCodec.option.pair sequelCodec.option).iso
    (fun (tag, price, symbol, sellerFeeBasisPoints, maxSupply, isMutable, retainAuthority, goLiveDate,
        endRule, creators, hidden, whitelist, itemsAvailable, gatekeeper, sequel) =>
      ⟨tag, price, symbol, sellerFeeBasisPoints, maxSupply, isMutable, retainAuthority, goLiveDate,
        endRule, creators, hidden, whitelist, itemsAvailable, gatekeeper, sequel⟩)
    (fun t => (t.tag, t.price, t.symbol, t.sellerFeeBasisPoints, t.maxSupply, t.isMutable,
      t.retainAuthority, t.goLiveDate, t.endRule, t.creators, t.hidden, t.whitelist, t.itemsAvailable,
      t.gatekeeper, t.sequel))

/-! ### Sizes -/

/-- The most bytes of an item's name. -/
def maxName : Nat := 32

/-- The most bytes of the symbol. -/
def maxSymbol : Nat := 10

/-- The most bytes of an item's content address. -/
def maxUri : Nat := 200

/-- The most creators of a record, the record program itself included. -/
def maxCreators : Nat := 5

/-- The bytes of an item line: two padded texts behind their lengths. -/
def lineSize : Nat := 4 + maxName + 4 + maxUri

/-- The bytes before the item lines, each part at its longest. -/
def linesStart : Nat :=
  8 -- discriminator
    + 32 -- authority
    + 32 -- wallet
    + 33 -- token mint
    + (4 + 6) -- tag
    + 8 -- price
    + 8 -- items available
    + 9 -- go-live date
    + 10 -- end rule
    + (4 + maxSymbol) -- symbol
    + 2 -- seller fee
    + (4 + maxCreators * (32 + 1 + 1)) -- creators
    + 8 -- maximal supply
    + 1 -- is mutable
    + 1 -- retain authority
    + (1 + 4 + maxName + 4 + maxUri + 32) -- hidden items
    + 4 -- number of lines
    + 8 -- items redeemed
    + (1 + 1 + 1 + 9 + 32) -- whitelist
    + (1 + 32 + 1) -- gatekeeper
    + (1 + 4 + maxName + 4 + maxUri + 1) -- sequel

/-- The bytes that the record's account needs: without lines the part before them, else also the number
of lines, the lines and two bit masks over them. -/
def accountSize (t : Terms) : Nat :=
  if t.skipsUpload then linesStart
  else
    let items := t.itemsAvailable.toNat
    linesStart + 4 + items * lineSize + 8 + 2 * (items / 8 + 1)

end Terms

namespace Record

/-- The eight bytes that mark the data of a kind of account. -/
def discriminator (name : String) : Bytes := (Sha2.sha256 (Utf8.encode ("account:" ++ name))).take 8

/-- The layout of a record. -/
def codec : Codec Record :=
  (Codec.address.pair <| Codec.address.pair <| Codec.address.option.pair <|
    Codec.uint64.pair Terms.codec).iso
    (fun (authority, wallet, tokenMint, itemsRedeemed, terms) =>
      ⟨authority, wallet, tokenMint, itemsRedeemed, terms⟩)
    (fun r => (r.authority, r.wallet, r.tokenMint, r.itemsRedeemed, r.terms))

/-- Why an account's data is no record. -/
inductive Fault
  | tooShort (length : Nat)
  | otherKind
  | body (fault : Codec.Fault)
  deriving DecidableEq

/-- The wording of a fault. -/
def Fault.message : Fault → String
  | .tooShort length => toString length ++ " bytes is too short"
  | .otherKind => "discriminator mismatch"
  | .body fault => fault.message

/-- The data of a record's account, without the item lines. -/
def encode (r : Record) : Option Bytes :=
  (codec.encode r).map (discriminator "CandyMachine" ++ ·)

/-- The record at the head of an account's data. -/
def decode (data : Bytes) : Except Fault Record :=
  if data.length < 8 then .error (.tooShort data.length)
  else if data.take 8 ≠ discriminator "CandyMachine" then .error .otherKind
  else match codec.decode (data.drop 8) with
    | .ok (r, _) => .ok r
    | .error fault => .error (.body fault)

end Record

end MintDrop
