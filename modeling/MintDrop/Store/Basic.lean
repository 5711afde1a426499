import MintDrop.Json.Fault
import MintDrop.Store.Disk

/-!
# Errors of a progress store
-/

namespace MintDrop

/-- Why progress could not be loaded or saved. -/
inductive StoreError
  | io (path : String) (fault : IoFault)
  /-- A file holds no progress. -/
  | corrupt (path : String) (fault : Json.Fault)

/-- The word by which an error is reported. -/
def StoreError.kind : StoreError → String
  | .io .. => "Io"
  | .corrupt .. => "Corrupt"

/-- The wording of an error. -/
def StoreError.message : StoreError → String
  | .io path fault => "cache I/O error at " ++ path ++ ": " ++ fault.message
  | .corrupt path fault =>
      "cache file " ++ path ++ " is not valid JSON: " ++ match fault with
        | .malformed => "malformed"
        | .cut => "unexpected end"
        | .mismatch m => m.message

end MintDrop
