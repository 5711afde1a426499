import MintDrop.Json.Fault
import MintDrop.Ledger.Error

/-!
# Errors of settings and documents

A file of settings or a document is unreadable, is no text of its format, or says something that cannot be
meant; `Problem`s are what it says wrong.
-/

namespace MintDrop

/-- Something that a field says wrong. -/
structure Problem where
  /-- The path of the field. -/
  field : String
  message : String
  deriving DecidableEq

namespace Problem

/-- A problem and its field in one text. -/
def text (p : Problem) : String := p.field ++ ": " ++ p.message

/-- The problem of a field if a condition holds. -/
def when (condition : Bool) (field message : String) : List Problem :=
  if condition then [⟨field, message⟩] else []

/-- The problem of a text that should be an address. -/
def ofAddress (field value : String) : List Problem :=
  when (Address.parse? value).isNone field ("invalid address '" ++ value ++ "'")

end Problem

/-- Why settings or a document cannot be used. -/
inductive ConfigError
  /-- The file cannot be read. -/
  | unreadable
  /-- The file holds no settings. -/
  | unparsable
  /-- The file holds no document. -/
  | json (fault : Json.Fault)
  | invalid (problems : List Problem)
  /-- The ledger could not be asked about the document. -/
  | ledger (e : LedgerError)

/-- The word by which an error is reported. -/
def ConfigError.kind : ConfigError → String
  | .unreadable => "Io"
  | .unparsable => "Parse"
  | .json _ => "Json"
  | .invalid _ => "Validation"
  | .ledger _ => "Ledger"

/-- The wording of an error about content. -/
def ConfigError.message : ConfigError → String
  | .unreadable => "IO error"
  | .unparsable => "Parse error"
  | .json _ => "JSON error"
  | .invalid problems => "Validation failed: " ++ ", ".intercalate (problems.map Problem.text)
  | .ledger e => "Ledger error: " ++ e.message

end MintDrop
