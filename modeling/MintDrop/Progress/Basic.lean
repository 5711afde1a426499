import MintDrop.Ledger.Error
import MintDrop.Progress.Items

/-!
# The progress of a deployment

`Progress` is what is kept between runs: the identity of the record once it is created, and the items with
the lines that were written.  A run repeats exactly what its progress does not record.
-/

namespace MintDrop

/-- The name under which a deployment's progress is kept. -/
structure Slot where
  env : String
  cacheName : String
  deriving DecidableEq

/-- The identity of a created record. -/
structure Identity where
  tag : String
  address : Address
  deriving DecidableEq

/-- The identity as it is kept: both parts are there once the record exists. -/
structure RecordEntry where
  tag : Option String
  address : Option String
  deriving DecidableEq

/-- The progress of a deployment. -/
structure Progress where
  program : RecordEntry
  items : Items
  env : String
  cacheName : String
  deriving DecidableEq

namespace Progress

/-- No progress, under no name. -/
def blank : Progress := ⟨⟨none, none⟩, .empty, "", ""⟩

instance : Inhabited Progress := ⟨blank⟩

/-- No progress under a name. -/
def new (slot : Slot) : Progress := { blank with env := slot.env, cacheName := slot.cacheName }

/-- The name of the progress. -/
def slot (p : Progress) : Slot := ⟨p.env, p.cacheName⟩

/-- The progress under another name. -/
def stamp (p : Progress) (slot : Slot) : Progress :=
  { p with env := slot.env, cacheName := slot.cacheName }

/-- The identity of the record, if both of its parts are kept. -/
def identity (p : Progress) : Except LedgerError (Option Identity) :=
  match p.program.tag, p.program.address with
  | some tag, some address => (Address.parse address).map fun a => some ⟨tag, a⟩
  | _, _ => .ok none

/-- Whether just one part of the identity is kept. -/
def isPartial (p : Progress) : Bool := p.program.tag.isSome != p.program.address.isSome

/-- The progress with the identity of the record, unless a part of one is there. -/
def setIdentity? (p : Progress) (id : Identity) : Option Progress :=
  if p.program.tag.isSome || p.program.address.isSome then none
  else some { p with program := ⟨some id.tag, some id.address.toText⟩ }

/-- The progress with the items from index `first` to `last` recorded as written. -/
def markOnChain (p : Progress) (first last : UInt32) : Progress :=
  { p with items := p.items.markOnChain first last }

end Progress

end MintDrop
