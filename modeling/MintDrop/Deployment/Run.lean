import MintDrop.Deployment.Basic
import MintDrop.Deployment.Upload

/-!
# Deploy runs

`Deployment.run` creates the record of a drop, unless an earlier run did, and writes its items.  Whatever goes
wrong before the record is confirmed leaves ledger and progress as they were; afterwards the identity of the
record is kept, so that no later run creates another one.
-/

namespace MintDrop.Deployment

/-- The number of characters of a record's address that its tag takes. -/
def tagLength : Nat := 6

/-- Why a run ended without a report. -/
inductive Error
  /-- An item is neither kept nor listed nor named by a template. -/
  | missingItem (index : UInt32)
  | recordCreation (e : LedgerError)
  /-- The address that is kept is none. -/
  | corruptRecord (e : LedgerError)
  /-- Just one part of an identity is kept. -/
  | partialRecord (slot : Slot)
  | tooManyItems (count : UInt64)
  | store (e : StoreError)
  | upload (e : Upload.Error)

/-- The word by which an error is reported. -/
def Error.kind : Error → String
  | .missingItem _ => "MissingItem"
  | .recordCreation _ => "RecordCreation"
  | .corruptRecord _ => "CorruptRecord"
  | .partialRecord _ => "PartialRecord"
  | .tooManyItems _ => "TooManyItems"
  | .store _ => "Cache"
  | .upload _ => "Upload"

/-- The wording of an error. -/
def Error.message : Error → String
  | .missingItem index =>
      "item " ++ toString index.toNat ++ " has no name/uri in the cache or the items catalogue"
  | .recordCreation e => "configuration record creation failed: " ++ e.message
  | .corruptRecord e => "cached record is unreadable: " ++ e.message
  | .partialRecord slot =>
      "cached program entry for " ++ slot.env ++ "/" ++ slot.cacheName
        ++ " has only one of uuid/candyMachine"
  | .tooManyItems count => "item count " ++ toString count.toNat ++ " exceeds the supported index range"
  | .store e => e.message
  | .upload e => e.message

/-- A stage of a deployment. -/
inductive Phase
  | uninitialized
  | recordCreated
  | itemsUploading
  | skippedUpload
  | done
  deriving DecidableEq

/-- The name of a phase. -/
def Phase.name : Phase → String
  | .uninitialized => "Uninitialized"
  | .recordCreated => "RecordCreated"
  | .itemsUploading => "ItemsUploading"
  | .skippedUpload => "SkippedUpload"
  | .done => "Done"

/-- The outcome of a run. -/
structure Report where
  identity : Identity
  /-- Whether this run created the record. -/
  created : Bool
  /-- The phases in order. -/
  phases : List Phase
  /-- The outcome of the upload, if there was one. -/
  upload : Option Upload.Report

/-- Whether no group of an upload failed. -/
def Report.success (r : Report) : Bool := r.upload.all (·.success)

/-- Who deploys what under which name. -/
structure Site where
  program : Address
  payer : Keypair
  slot : Slot
  batching : Batching

/-! ### Items -/

/-- The items with each of `left` indices from `index` on taken from the deployment where there is none. -/
def fillItems (d : Deployment) (index : Nat) : (left : Nat) → Items → Except Error Items
  | 0, items => .ok items
  | left + 1, items =>
      if items.contains (UInt32.ofNat index) then fillItems d (index + 1) left items
      else match d.line? (UInt32.ofNat index) with
        | none => .error (.missingItem (UInt32.ofNat index))
        | some line =>
            fillItems d (index + 1) left
              (items.insert (UInt32.ofNat index) (.fresh line.name line.uri))

/-- The items with each of `left` indices from `index` on named by a template where there is none, and
recorded as written if nothing is uploaded. -/
def placeholders (s : Sequel) (index : Nat) : (left : Nat) → Items → Items
  | 0, items => items
  | left + 1, items =>
      let line := s.line index
      let item := (items.get? (UInt32.ofNat index)).getD (.fresh line.name line.uri)
      placeholders s (index + 1) left
        (items.insert (UInt32.ofNat index) { item with onChain := item.onChain || s.mintsInOrder })

/-- The progress that a run starts from, if the store gave it `loaded`. -/
def starting (site : Site) (loaded : Option Progress) : Progress :=
  (loaded.getD (.new site.slot)).stamp site.slot

/-- The progress with an item at every index that is uploaded, unless just one part of an identity is kept. -/
def readyProgress (d : Deployment) (site : Site) (count : UInt32) (p : Progress) : Except Error Progress :=
  if p.isPartial then .error (.partialRecord site.slot)
  else if d.uploadsItems then (fillItems d 0 count.toNat p.items).map fun items => { p with items }
  else .ok p

/-! ### The record -/

/-- Creates the record of a drop at the address of a new key. -/
def createRecord (d : Deployment) (site : Site) (key : Keypair) : ExceptT LedgerError Script Identity := do
  let payer := site.payer.address
  let tag := String.ofList (key.address.toText.toList.take tagLength)
  let terms := d.taggedTerms tag
  let lamports ← Script.rent terms.accountSize
  let create := System.createAccount payer key.address lamports (UInt64.ofNat terms.accountSize) site.program
  let initialization ← Record.create site.program
    ⟨key.address, d.treasury, payer, payer, d.tokenMint⟩ terms
  let _ ← Script.submit ⟨payer, [site.payer, key], [create, initialization]⟩
  pure ⟨tag, key.address⟩

/-- The progress once the record is created. -/
def afterCreation (d : Deployment) (count : UInt32) (id : Identity) (p : Progress) : Option Progress := do
  let p ← p.setIdentity? id
  match d.terms.sequel with
  | none => pure p
  | some s => pure { p with items := placeholders s 0 count.toNat p.items }

/-! ### The run -/

/-- Creates the record and keeps its identity: the identity, and the progress with it. -/
def newRecord (d : Deployment) (site : Site) (count : UInt32) (key : Keypair) (p : Progress) :
    ExceptT Error Script (Identity × Progress) := do
  let id ← Script.orElse (createRecord d site key) .recordCreation
  match afterCreation d count id p with
  | none => throw (.partialRecord site.slot)
  | some p =>
      Script.orElse (Script.save site.slot p) .store
      pure (id, p)

/-- The identity of the record, created with a new key if none is kept; whether it was created, and the
progress after it. -/
def ensureRecord (d : Deployment) (site : Site) (count : UInt32) (key : Keypair) (p : Progress) :
    ExceptT Error Script (Identity × Bool × Progress) := do
  match ← Script.check p.identity .corruptRecord with
  | some id => pure (id, false, p)
  | none =>
      let (id, p) ← newRecord d site count key p
      pure (id, true, p)

/-- Writes the items to the record, unless the drop uploads none, and reports the run. -/
def finish (d : Deployment) (site : Site) (count : UInt32) (id : Identity) (created : Bool) (p : Progress) :
    ExceptT Error Script Report :=
  if d.uploadsItems then do
    let (report, _) ← Script.orElse
      (Upload.run ⟨site.program, id.address, site.payer⟩ site.batching count p) .upload
    pure ⟨id, created, [.uninitialized, .recordCreated, .itemsUploading, .done], some report⟩
  else pure ⟨id, created, [.uninitialized, .recordCreated, .skippedUpload], none⟩

/-- Deploys a drop; `key` is the key of the record if it is created. -/
def run (d : Deployment) (site : Site) (key : Keypair) : ExceptT Error Script Report :=
  if UInt32.size ≤ d.itemCount.toNat then throw (.tooManyItems d.itemCount)
  else do
    let count := d.itemCount.toUInt32
    let loaded ← Script.orElse (Script.load site.slot) .store
    let p ← Script.check (readyProgress d site count (starting site loaded)) id
    let (id, created, p) ← ensureRecord d site count key p
    finish d site count id created p

end MintDrop.Deployment
