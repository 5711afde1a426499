import MintDrop.Toml.Value

/-!
# Typed values of TOML

Readers for the parts of a document: `text?`, `count?` and `texts?` for single values, and `fields?` for a
table with known fields, each of which may be absent.
-/

namespace MintDrop.Toml.Value

/-- A text. -/
def text? : Value → Option String
  | .string s => some s
  | _ => none

/-- A number that is not negative. -/
def count? : Value → Option Nat
  | .integer n => if 0 ≤ n then some n.toNat else none
  | _ => none

/-- The key under which the text of a date stands where a table belongs. -/
def datetimeKey : String := "$__toml_private_datetime"

/-- A table of texts. -/
def texts? : Value → Option (List (String × String))
  | .table entries => entries.mapM fun (key, v) => v.text?.map (key, ·)
  | .datetime text => some [(datetimeKey, text)]
  | _ => none

/-- A field of a table: its key, and how its value changes what was read so far. -/
structure Field (α : Type) where
  key : String
  read : Value → α → Option α

/-- A field with a value that is put in its place. -/
def field {α β : Type} (key : String) (read : Value → Option β) (put : α → β → α) : Field α :=
  ⟨key, fun v a => (read v).map (put a)⟩

/-- A table with known fields, or the list of their values; fields that are absent keep what `start` says,
and other keys do not count. -/
def fields? {α : Type} (fields : List (Field α)) (start : α) : Value → Option α
  | .table entries =>
      entries.foldlM (fun a (key, v) =>
        match fields.find? (·.key = key) with
        | some f => f.read v a
        | none => some a) start
  | .array elements => (fields.zip elements).foldlM (fun a (f, v) => f.read v a) start
  | .datetime _ => some start
  | _ => none

end MintDrop.Toml.Value
