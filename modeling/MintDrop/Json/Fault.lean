import MintDrop.Number.Double
import MintDrop.Text.Quoted

/-!
# Faults of a JSON document

Reading stops at the first fault.  A document is malformed, is cut off, or holds a value that does not fit
where it stands; a `Mismatch` says what does not fit, and `Mismatch.message` words it.
-/

namespace MintDrop.Json

/-- A value that stands where another kind of value belongs. -/
inductive Found
  | null
  | boolean (b : Bool)
  | whole (n : Int)
  | fraction (x : Float)
  | text (s : String)
  | list
  | object

/-- The wording of a value that was found. -/
def Found.message : Found → String
  | .null => "null"
  | .boolean b => "boolean `" ++ (if b then "true" else "false") ++ "`"
  | .whole n => "integer `" ++ toString n ++ "`"
  | .fraction x => "floating point `" ++ Double.scientific x ++ "`"
  | .text s => "string " ++ Text.quoted s
  | .list => "sequence"
  | .object => "map"

/-- Why a well-formed value does not fit. -/
inductive Mismatch
  /-- A value of another kind. -/
  | kind (found : Found) (expected : String)
  /-- A value of the right kind outside the range. -/
  | range (found : Found) (expected : String)
  /-- A list that ends after `count` fields of an object. -/
  | short (count : Nat) (expected : String)
  /-- An object that ends without a field. -/
  | missing (field : String)
  /-- A field that an object has twice. -/
  | duplicate (field : String)

/-- The wording of a mismatch. -/
def Mismatch.message : Mismatch → String
  | .kind found expected => "invalid type: " ++ found.message ++ ", expected " ++ expected
  | .range found expected => "invalid value: " ++ found.message ++ ", expected " ++ expected
  | .short count expected => "invalid length " ++ toString count ++ ", expected " ++ expected
  | .missing field => "missing field `" ++ field ++ "`"
  | .duplicate field => "duplicate field `" ++ field ++ "`"

/-- Why a document cannot be read. -/
inductive Fault
  /-- The text is no JSON. -/
  | malformed
  /-- The text ends before the value does. -/
  | cut
  /-- A value does not fit. -/
  | mismatch (m : Mismatch)

end MintDrop.Json
