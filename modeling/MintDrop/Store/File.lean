import MintDrop.Progress.Json
import MintDrop.Store.Basic

/-!
# Progress in files

The progress of a slot is a JSON file in a directory.  `FileStore.saveOn` writes a temporary file and renames
it, so that a failed save leaves the old file; `FileStore.load` reads the file, or the one without the
extension that older tools wrote.
-/

namespace MintDrop.FileStore

/-- The path of a slot's file; files of older tools have no extension. -/
def path (dir : String) (slot : Slot) (legacy : Bool) : String :=
  let name := slot.env ++ "-" ++ slot.cacheName
  joinPath dir (if legacy then name else name ++ ".json")

/-- The progress that the content of a file says. -/
def ofContent (path : String) (content : Bytes) : Except StoreError Progress :=
  (Progress.ofJson content).mapError (.corrupt path)

/-- The progress that a file holds. -/
def readFile (d : Disk) (path : String) : Except StoreError Progress :=
  match d.read path with
  | .error fault => .error (.io path fault)
  | .ok content => ofContent path content

/-- The progress of a slot, from the first regular file of its two paths. -/
def load (d : Disk) (dir : String) (slot : Slot) : Except StoreError (Option Progress) :=
  if d.isFile (path dir slot false) then (readFile d (path dir slot false)).map some
  else if d.isFile (path dir slot true) then (readFile d (path dir slot true)).map some
  else .ok none

/-- The path of a temporary file that is not there yet. -/
def temporaryPath (d : Disk) (dir : String) : (tries : Nat) → String
  | 0 => joinPath dir ".tmp"
  | tries + 1 =>
      let path := joinPath dir (".tmp" ++ toString tries)
      if (d.lookup path).isSome then temporaryPath d dir tries else path

/-- The progress of a slot saved over what was there, if the device takes the content of the temporary file: the
outcome, and the tree in any case. -/
def saveOn (device : Except StoreError Unit) (d : Disk) (dir : String) (slot : Slot) (p : Progress) :
    Except StoreError Unit × Disk :=
  match d.makeDirectories (dir.length + 1) dir with
  | (some fault, d) => (.error (.io dir fault), d)
  | (none, d) =>
      let target := path dir slot false
      let temporary := temporaryPath d dir (d.nodes.length + 1)
      match d.create temporary (Utf8.encode (p.stamp slot).toJson) with
      | .error fault => (.error (.io dir fault), d)
      | .ok written =>
          match device with
          | .error e => (.error e, written.unlink temporary)
          | .ok () =>
              match written.rename temporary target with
              | .error fault => (.error (.io target fault), written.unlink temporary)
              | .ok d => (.ok (), d)

/-- The progress of a slot saved over what was there, on a device that takes all content. -/
def save (d : Disk) (dir : String) (slot : Slot) (p : Progress) : Except StoreError Unit × Disk :=
  saveOn (.ok ()) d dir slot p

end MintDrop.FileStore
