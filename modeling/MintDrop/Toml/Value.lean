/-!
# TOML values

A `Toml.Value` is what a TOML document says.  While a document is read, its tables are kept as `Node`s that
remember how they were opened, because that decides whether they may be opened again.
-/

namespace MintDrop.Toml

/-- A value of a document. -/
inductive Value
  | string (s : String)
  | integer (n : Int)
  | float
  | boolean (b : Bool)
  | datetime (text : String)
  | array (elements : List Value)
  | table (entries : List (String × Value))

/-- How a table came about. -/
inductive Kind
  /-- As the parent of a table with a header. -/
  | implicit
  /-- By a key with dots. -/
  | dotted
  /-- By a header. -/
  | explicit
  deriving DecidableEq

/-- What stands under a key while a document is read. -/
inductive Node
  | leaf (v : Value)
  | table (kind : Kind) (entries : List (String × Node))
  | tables (elements : List (List (String × Node)))

/-- What stands under some keys. -/
abbrev Entries := List (String × Node)

/-- Entries with a key set. -/
def Entries.set (entries : Entries) (key : String) (node : Node) : Entries :=
  entries.filter (·.1 ≠ key) ++ [(key, node)]

/-- Entries changed inside the table that a path leads to.  Tables on the way are opened as `opened`, by
dots only if they have no header. -/
def descend (opened : Kind) (update : Kind → Entries → Option Entries) :
    (path : List String) → Kind → Entries → Option Entries
  | [], kind, entries => update kind entries
  | key :: path, _, entries =>
      match entries.lookup key with
      | none => do
          let inner ← descend opened update path opened []
          pure (entries.set key (.table opened inner))
      | some (.leaf _) => none
      | some (.tables elements) => do
          let last ← elements.getLast?
          let inner ← descend opened update path .explicit last
          pure (entries.set key (.tables (elements.dropLast ++ [inner])))
      | some (.table kind inner) =>
          if opened = .dotted ∧ kind = .explicit then none
          else do
            let inner ← descend opened update path kind inner
            pure (entries.set key (.table kind inner))

/-- Entries with a value under a key with dots, unless there is one. -/
def putDotted (path : List String) (key : String) (node : Node) (entries : Entries) : Option Entries :=
  descend .dotted
    (fun kind inner =>
      if (kind = .dotted) = path.isEmpty ∨ (inner.lookup key).isSome then none
      else some (inner.set key node))
    path .explicit entries

mutual

/-- The value of a node. -/
def Node.value : Node → Value
  | .leaf v => v
  | .table _ entries => .table (entryValues entries)
  | .tables elements => .array (elementValues elements)

/-- The values of entries. -/
def entryValues : List (String × Node) → List (String × Value)
  | [] => []
  | (key, node) :: rest => (key, node.value) :: entryValues rest

/-- The values of the elements of an array of tables. -/
def elementValues : List (List (String × Node)) → List Value
  | [] => []
  | entries :: rest => .table (entryValues entries) :: elementValues rest

end

end MintDrop.Toml
