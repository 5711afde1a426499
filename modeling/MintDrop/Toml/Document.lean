import MintDrop.Text.Utf8
import MintDrop.Toml.Scalar

/-!
# TOML documents

`Toml.parse?` reads a document line by line: keys with values go into the table of the last header.
-/

namespace MintDrop.Toml

/-! ### Values -/

mutual

/-- A value, at most `depth` levels below the outermost. -/
def value : (steps : Nat) → (depth : Nat) → Scan Value
  | 0, _, _ => none
  | steps + 1, depth, cs =>
      match cs with
      | '[' :: rest =>
          if maxDepth ≤ depth + 1 then none
          else (elements steps (depth + 1) (skipLines cs.length rest)).map fun (vs, rest) =>
            (.array vs, rest)
      | '\x7b' :: rest =>
          if maxDepth ≤ depth + 1 then none
          else
            match skipBlanks rest with
            | '\x7d' :: rest => some (.table [], rest)
            | rest => (entries steps (depth + 1) [] rest).map fun (es, rest) =>
                (.table (entryValues es), rest)
      | 't' :: 'r' :: 'u' :: 'e' :: rest => some (.boolean true, rest)
      | 'f' :: 'a' :: 'l' :: 's' :: 'e' :: rest => some (.boolean false, rest)
      | c :: _ =>
          if c = '"' ∨ c = '\'' then (string cs).map fun (s, rest) => (.string s, rest)
          else dateOrNumber cs
      | [] => none

/-- The elements of an array from the next one on, with its closing bracket. -/
def elements : (steps : Nat) → (depth : Nat) → Scan (List Value)
  | 0, _, _ => none
  | steps + 1, depth, cs =>
      match cs with
      | ']' :: rest => some ([], rest)
      | cs => do
          let (v, rest) ← value steps depth cs
          match skipLines cs.length rest with
          | ',' :: rest =>
              let (vs, rest) ← elements steps depth (skipLines cs.length rest)
              pure (v :: vs, rest)
          | ']' :: rest => pure ([v], rest)
          | _ => none

/-- The entries of an inline table from the next one on, with its closing brace. -/
def entries : (steps : Nat) → (depth : Nat) → Entries → Scan Entries
  | 0, _, _, _ => none
  | steps + 1, depth, table, cs => do
      let ((path, last), rest) ← key cs
      let (_, rest) ← char '=' rest
      let (v, rest) ← value steps depth (skipBlanks rest)
      let table ← putDotted path last (.leaf v) table
      match skipBlanks rest with
      | ',' :: rest => entries steps depth table rest
      | '\x7d' :: rest => pure (table, rest)
      | _ => none

end

/-! ### Lines -/

/-- A document that is being read: the tables that are closed, and the table of the last header. -/
structure Partial where
  root : Entries
  /-- The path of the last header, or `none` before the first one. -/
  header : Option (List String × String)
  /-- Whether the last header opened an element of an array. -/
  isElement : Bool
  current : Entries

/-- The tables with the current one put in its place. -/
def Partial.close (p : Partial) : Option Entries :=
  match p.header with
  | none => some p.current
  | some (path, last) =>
      descend .implicit
        (fun _ inner =>
          if p.isElement then
            match inner.lookup last with
            | none => some (inner.set last (.tables [p.current]))
            | some (.tables elements) => some (inner.set last (.tables (elements ++ [p.current])))
            | some _ => none
          else some (inner.set last (.table .explicit p.current)))
        path .explicit p.root

/-- The node that a path leads to. -/
def find? : Entries → List String → Option Node
  | _, [] => none
  | entries, [key] => entries.lookup key
  | entries, key :: path =>
      match entries.lookup key with
      | some (.table _ inner) => find? inner path
      | some (.tables elements) => elements.getLast?.bind fun last => find? last path
      | _ => none

/-- The document after the header of a table, which may be opened only once. -/
def Partial.openTable (p : Partial) (path : List String) (last : String) : Option Partial := do
  let root ← p.close
  let opened ← descend .implicit (fun _ inner => some inner) path .explicit root
  match find? opened (path ++ [last]) with
  | none => pure ⟨opened, some (path, last), false, []⟩
  | some (.table .implicit inner) => pure ⟨opened, some (path, last), false, inner⟩
  | some _ => none

/-- The document after the header of an element of an array of tables. -/
def Partial.openElement (p : Partial) (path : List String) (last : String) : Option Partial := do
  let root ← p.close
  let opened ← descend .implicit (fun _ inner => some inner) path .explicit root
  match find? opened (path ++ [last]) with
  | none => pure ⟨opened, some (path, last), true, []⟩
  | some (.tables _) => pure ⟨opened, some (path, last), true, []⟩
  | some _ => none

/-- The text after the end of a line, comment included. -/
def lineEnd? (cs : List Char) : Option (List Char) :=
  match skipComment (skipBlanks cs) with
  | [] => some []
  | rest => newline? rest

/-- The document after its next line, with the text after that. -/
def line (p : Partial) (cs : List Char) : Option (Partial × List Char) :=
  match cs with
  | '[' :: '[' :: rest => do
      let ((path, last), rest) ← key rest
      match rest with
      | ']' :: ']' :: rest => pure (← p.openElement path last, ← lineEnd? rest)
      | _ => none
  | '[' :: rest => do
      let ((path, last), rest) ← key rest
      let (_, rest) ← char ']' rest
      pure (← p.openTable path last, ← lineEnd? rest)
  | cs => do
      let ((path, last), rest) ← key cs
      let (_, rest) ← char '=' rest
      let (v, rest) ← value (2 * cs.length + 2) 0 (skipBlanks rest)
      let current ← putDotted path last (.leaf v) p.current
      pure (⟨p.root, p.header, p.isElement, current⟩, ← lineEnd? rest)

/-- The document after its next lines. -/
def lines : (steps : Nat) → Partial → List Char → Option Partial
  | 0, _, _ => none
  | steps + 1, p, cs =>
      match skipLines (cs.length + 1) cs with
      | [] => some p
      | cs => do
          let (p, rest) ← line p cs
          lines steps p rest

/-- The table that a document says. -/
def parse? (text : String) : Option (List (String × Value)) := do
  let cs := match text.toList with
    | '\ufeff' :: rest => rest
    | cs => cs
  let p ← lines (cs.length + 1) ⟨[], none, false, []⟩ cs
  let root ← p.close
  pure (entryValues root)

end MintDrop.Toml
