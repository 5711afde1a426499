import MintDrop.Number.Natural

/-!
# Log levels
-/

namespace MintDrop.Log

/-- How much is logged; each level includes those before it. -/
inductive Level
  | off
  | error
  | warn
  | info
  | debug
  | trace
  deriving DecidableEq

namespace Level

/-- All levels, in the order of the numbers that may stand for them. -/
def all : List Level := [.off, .error, .warn, .info, .debug, .trace]

/-- The name of a level. -/
def name : Level → String
  | .off => "off"
  | .error => "error"
  | .warn => "warn"
  | .info => "info"
  | .debug => "debug"
  | .trace => "trace"

/-- The level of a name in any case, or of a number. -/
def ofText? (text : String) : Option Level :=
  match Natural.ofText? text.toList with
  | some n => all[n]?
  | none => all.find? fun level => level.name = String.ofList (text.toList.map Char.toLower)

end Level

end MintDrop.Log
