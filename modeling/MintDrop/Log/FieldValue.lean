import MintDrop.Log.Pattern
import MintDrop.Number.Double

/-!
# Values of fields

A log filter can ask for the value of a field.  A `Log.FieldValue` is a truth value, a number, or a pattern for
the text of the value.
-/

namespace MintDrop.Log

/-- The value that a field must have. -/
inductive FieldValue
  | truth (b : Bool)
  /-- A number that is not an integer of 64 bits; `x` is a number. -/
  | real (x : Float)
  | notNumber
  | natural (n : Nat)
  /-- An integer behind a minus sign. -/
  | integer (n : Int)
  | pattern (text : String)

namespace FieldValue

/-- The value that a text asks for, unless it is no pattern. -/
def ofText? (text : String) : Option FieldValue :=
  let cs := text.toList
  let natural := Natural.ofText? cs
  let integer : Option Int := match cs with
    | '-' :: digits => if digits.head? = some '+' then none else (Natural.ofText? digits).map fun n => -n
    | _ => none
  if text = "true" then some (.truth true)
  else if text = "false" then some (.truth false)
  else match natural.filter (· < UInt64.size), integer.filter (Int64.minValue.toInt ≤ ·), Double.ofText? cs with
    | some n, _, _ => some (.natural n)
    | _, some n, _ => some (.integer n)
    | _, _, some x => some (if x.isNaN then .notNumber else .real x)
    | _, _, none => if Pattern.isValid text then some (.pattern text) else none

/-- The text of a value. -/
def text : FieldValue → String
  | .truth b => if b then "true" else "false"
  | .real x => Double.plain x
  | .notNumber => "NaN"
  | .natural n => toString n
  | .integer n => toString n
  | .pattern text => text

/-- The place of a kind of values among the others. -/
def rank : FieldValue → Nat
  | .truth _ => 0
  | .real _ => 1
  | .notNumber => 2
  | .natural _ => 3
  | .integer _ => 4
  | .pattern _ => 5

/-- Order of numbers; zeros are equal. -/
def compareReal (x y : Float) : Ordering := if x < y then .lt else if x == y then .eq else .gt

/-- Order of values: by kind, then within a kind. -/
def order (v w : FieldValue) : Ordering :=
  match v, w with
  | .truth a, .truth b => compare a b
  | .real x, .real y => compareReal x y
  | .natural m, .natural n => compare m n
  | .integer m, .integer n => compare m n
  | .pattern s, .pattern t => compare s t
  | v, w => compare v.rank w.rank

end FieldValue

end MintDrop.Log
