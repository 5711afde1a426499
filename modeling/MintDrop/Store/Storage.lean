import MintDrop.Store.File
import MintDrop.Store.Memory

/-!
# Places to keep progress

A `Storage` keeps the progress of slots in memory, or in the files of a directory.
-/

namespace MintDrop

/-- Where progress is kept. -/
inductive Storage
  | memory (store : MemoryStore)
  /-- In the files of a directory. -/
  | files (disk : Disk) (dir : String)

namespace Storage

/-- The progress of a slot. -/
def load (slot : Slot) : Storage → Except StoreError (Option Progress)
  | .memory store => .ok (store.load slot)
  | .files disk dir => FileStore.load disk dir slot

/-- The progress of a slot saved over what was there: the outcome, and the storage in any case. -/
def save (slot : Slot) (p : Progress) : Storage → Except StoreError Unit × Storage
  | .memory store => (.ok (), .memory (store.save slot p))
  | .files disk dir =>
      let (outcome, disk) := FileStore.save disk dir slot p
      (outcome, .files disk dir)

/-- The number of saves in memory. -/
def saves : Storage → Nat
  | .memory store => store.saves
  | .files .. => 0

/-- The tree of the files. -/
def disk? : Storage → Option Disk
  | .memory _ => none
  | .files disk _ => some disk

/-- The storage with its tree changed by others. -/
def onDisk (change : Disk → Disk) : Storage → Storage
  | .memory store => .memory store
  | .files disk dir => .files (change disk) dir

end Storage

end MintDrop
