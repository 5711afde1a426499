import MintDrop.Record.Instruction

/-!
# Deployments

A `Deployment` is all that a deploy run needs to know about a drop: the terms of its record, the treasury and
the catalogue of its items.
-/

namespace MintDrop

/-- A drop that is ready to be deployed. -/
structure Deployment where
  /-- The terms of the record, without a tag as long as the record does not exist. -/
  terms : Terms
  /-- The account that receives the payments. -/
  treasury : Address
  /-- The mint of the token that items are paid in. -/
  tokenMint : Option Address
  /-- The items that are listed, by their index. -/
  catalogue : List (UInt32 × Line)
  deriving DecidableEq

/-- The item that a naming template makes at an index. -/
def Sequel.line (s : Sequel) (index : Nat) : Line where
  name := s.name ++ " #" ++ toString index
  uri := s.uri ++ toString index

namespace Deployment

/-- The number of items. -/
def itemCount (d : Deployment) : UInt64 := d.terms.itemsAvailable

/-- Whether the items are uploaded. -/
def uploadsItems (d : Deployment) : Bool := !d.terms.skipsUpload

/-- The terms with the tag of a record. -/
def taggedTerms (d : Deployment) (tag : String) : Terms := { d.terms with tag }

/-- The item at an index: from the catalogue, else from the naming template. -/
def line? (d : Deployment) (index : UInt32) : Option Line :=
  match d.catalogue.lookup index with
  | some line => some line
  | none => d.terms.sequel.map (·.line index.toNat)

end Deployment

end MintDrop
