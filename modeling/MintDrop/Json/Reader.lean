import MintDrop.Json.Token

/-!
# Reading typed values from JSON

A `Json.Reader` reads one value of a known type from the head of a byte string, so that the first fault of a
document decides, whether it lies in the form or in the meaning.  `Json.fields` reads an object, or a list
of its fields in order, by a list of `Json.Field`s; `Json.document` reads a whole document.
-/

namespace MintDrop.Json

/-- Reads a value, with the number of levels that may still be opened. -/
abbrev Reader (α : Type) := Nat → Bytes → Except Fault (α × Bytes)

/-- The number of levels of lists and objects in a document, and one. -/
def maxDepth : Nat := 128

/-! ### Values of any kind -/

/-- What encloses a value. -/
inductive Frame
  | list
  | object
  deriving DecidableEq

/-- What may come next inside the enclosing lists and objects. -/
inductive Next
  | value
  | firstElement
  | firstKey
  | key
  | after

/-- The bytes after a value of any kind, by steps: each reads a token or settles what comes next. -/
def walk (care : Care) (depth : Nat) : (steps : Nat) → Next → List Frame → Bytes → Except Fault Bytes
  | 0, _, _, _ => .error .malformed
  | steps + 1, next, frames, bs =>
      match next, frames with
      | .after, [] => .ok bs
      | next, frames =>
          match skipBlanks bs with
          | [] => .error .cut
          | b :: rest =>
              let closes (frame : Frame) : Bool :=
                b = (match frame with | .list => byte ']' | .object => byte '\x7d')
              let opens (frame : Frame) (first : Next) : Except Fault Bytes :=
                if care = .sound ∧ depth ≤ frames.length + 1 then .error .malformed
                else walk care depth steps first (frame :: frames) rest
              let readKey : Except Fault Bytes := do
                if b ≠ byte '"' then throw .malformed
                let rest ← skipString care rest
                match skipBlanks rest with
                | [] => throw .cut
                | c :: rest =>
                    if c = byte ':' then walk care depth steps .value frames rest else throw .malformed
              match next with
              | .after =>
                  match frames with
                  | frame :: outer =>
                      if closes frame then walk care depth steps .after outer rest
                      else if b ≠ byte ',' then .error .malformed
                      else walk care depth steps (if frame = .list then .value else .key) frames rest
                  | [] => .ok bs
              | .firstElement =>
                  if closes .list then walk care depth steps .after (frames.drop 1) rest
                  else walk care depth steps .value frames (b :: rest)
              | .firstKey =>
                  if closes .object then walk care depth steps .after (frames.drop 1) rest else readKey
              | .key => readKey
              | .value => do
                  if b = byte '[' then opens .list .firstElement
                  else if b = byte '\x7b' then opens .object .firstKey
                  else
                    let rest ←
                      if b = byte '"' then skipString care rest
                      else if b = byte 'n' then literal (Bytes.ofAscii "ull") rest
                      else if b = byte 't' then literal (Bytes.ofAscii "rue") rest
                      else if b = byte 'f' then literal (Bytes.ofAscii "alse") rest
                      else if b = byte '-' || isDigit b then
                        match care with
                        | .sound => (number (b :: rest)).map Prod.snd
                        | .form => skipNumber (if b = byte '-' then rest else b :: rest)
                      else throw .malformed
                    walk care depth steps .after frames rest

/-- The bytes after a value whose content does not matter. -/
def skipValue (bs : Bytes) : Except Fault Bytes := walk .form 0 (2 * bs.length + 2) .value [] bs

/-- A value of any kind, of which texts and whole numbers are kept. -/
inductive Scalar
  | text (s : String)
  | whole (n : Int)
  | other

/-- Reads a value of any kind. -/
def scalar : Reader Scalar := fun depth bs =>
  match skipBlanks bs with
  | [] => .error .cut
  | b :: rest =>
      if b = byte '"' then (string rest).map fun (s, rest) => (.text s, rest)
      else if b = byte '-' || isDigit b then
        (number (b :: rest)).map fun (n, rest) => match n with
          | .whole n => (.whole n, rest)
          | .fraction _ => (.other, rest)
      else (walk .sound depth (2 * bs.length + 2) .value [] bs).map (.other, ·)

/-! ### Values of a kind -/

/-- The fault of a value that stands where another kind of value belongs. -/
def unexpected {α : Type} (expected : String) (bs : Bytes) : Except Fault α := do
  let found ← match bs with
    | [] => throw .cut
    | b :: rest =>
        if b = byte 'n' then (literal (Bytes.ofAscii "ull") rest).map fun _ => Found.null
        else if b = byte 't' then (literal (Bytes.ofAscii "rue") rest).map fun _ => Found.boolean true
        else if b = byte 'f' then (literal (Bytes.ofAscii "alse") rest).map fun _ => Found.boolean false
        else if b = byte '-' || isDigit b then (number bs).map fun (n, _) => n.found
        else if b = byte '"' then (string rest).map fun (s, _) => Found.text s
        else if b = byte '[' then pure Found.list
        else if b = byte '\x7b' then pure Found.object
        else throw .malformed
  throw (.mismatch (.kind found expected))

/-- Reads `true` or `false`. -/
def boolean : Reader Bool := fun _ bs =>
  match skipBlanks bs with
  | [] => .error .cut
  | b :: rest =>
      if b = byte 't' then (literal (Bytes.ofAscii "rue") rest).map (true, ·)
      else if b = byte 'f' then (literal (Bytes.ofAscii "alse") rest).map (false, ·)
      else unexpected "a boolean" (b :: rest)

/-- Reads a string. -/
def text : Reader String := fun _ bs =>
  match skipBlanks bs with
  | [] => .error .cut
  | b :: rest => if b = byte '"' then string rest else unexpected "a string" (b :: rest)

/-- Reads a number by a function on its value. -/
def numeric {α : Type} (expected : String) (ofNumber : Number → Except Mismatch α) : Reader α :=
  fun _ bs =>
    match skipBlanks bs with
    | [] => .error .cut
    | b :: rest =>
        if b = byte '-' || isDigit b then do
          let (n, rest) ← number (b :: rest)
          match ofNumber n with
          | .ok a => pure (a, rest)
          | .error m => throw (.mismatch m)
        else unexpected expected (b :: rest)

/-- Reads a whole number below `bound`. -/
def natural (expected : String) (bound : Nat) : Reader Nat :=
  numeric expected fun
    | .whole n =>
        if 0 ≤ n ∧ n < bound then .ok n.toNat else .error (.range (.whole n) expected)
    | .fraction x => .error (.kind (.fraction x) expected)

/-- Reads an unsigned number of 8 bits. -/
def uint8 : Reader UInt8 := fun depth bs =>
  (natural "u8" UInt8.size depth bs).map fun (n, rest) => (UInt8.ofNat n, rest)

/-- Reads an unsigned number of 16 bits. -/
def uint16 : Reader UInt16 := fun depth bs =>
  (natural "u16" UInt16.size depth bs).map fun (n, rest) => (UInt16.ofNat n, rest)

/-- Reads an unsigned number of 32 bits. -/
def uint32 : Reader UInt32 := fun depth bs =>
  (natural "u32" UInt32.size depth bs).map fun (n, rest) => (UInt32.ofNat n, rest)

/-- Reads an unsigned number of 64 bits. -/
def uint64 : Reader UInt64 := fun depth bs =>
  (natural "u64" UInt64.size depth bs).map fun (n, rest) => (UInt64.ofNat n, rest)

/-- Reads any number as a double. -/
def float : Reader Float :=
  numeric "f64" fun
    | .whole n => .ok (if 0 ≤ n then n.toNat.toUInt64.toFloat else -n.natAbs.toUInt64.toFloat)
    | .fraction x => .ok x

/-- Reads `null` or a value. -/
def optional {α : Type} (reader : Reader α) : Reader (Option α) := fun depth bs =>
  match skipBlanks bs with
  | [] => .error .cut
  | b :: rest =>
      if b = byte 'n' then (literal (Bytes.ofAscii "ull") rest).map (none, ·)
      else (reader depth (b :: rest)).map fun (a, rest) => (some a, rest)

/-! ### Lists -/

/-- The bytes from the next element on, or `none` with the bytes after the closing bracket. -/
def nextElement (first : Bool) (bs : Bytes) : Except Fault (Option Bytes × Bytes) :=
  match skipBlanks bs with
  | [] => .error .cut
  | b :: rest =>
      if b = byte ']' then .ok (none, rest)
      else if first then .ok (some (b :: rest), [])
      else if b ≠ byte ',' then .error .malformed
      else match skipBlanks rest with
        | [] => .error .cut
        | c :: after => if c = byte ']' then .error .malformed else .ok (some (c :: after), [])

/-- The elements of a list from the next one on. -/
def elements {α : Type} (reader : Reader α) (depth : Nat) :
    (steps : Nat) → (first : Bool) → Bytes → Except Fault (List α × Bytes)
  | 0, _, _ => .error .malformed
  | steps + 1, first, bs => do
      match ← nextElement first bs with
      | (none, rest) => pure ([], rest)
      | (some bs, _) =>
          let (a, rest) ← reader depth bs
          let (as, rest) ← elements reader depth steps false rest
          pure (a :: as, rest)

/-- Reads a list. -/
def list {α : Type} (reader : Reader α) : Reader (List α) := fun depth bs =>
  match skipBlanks bs with
  | [] => .error .cut
  | b :: rest =>
      if b ≠ byte '[' then unexpected "a sequence" (b :: rest)
      else if depth ≤ 1 then .error .malformed
      else elements reader (depth - 1) (rest.length + 1) true rest

/-! ### Objects -/

/-- The bytes from the next key's content on, or `none` with the bytes after the closing brace. -/
def nextKey (first : Bool) (bs : Bytes) : Except Fault (Option Bytes × Bytes) :=
  match skipBlanks bs with
  | [] => .error .cut
  | b :: rest =>
      if b = byte '\x7d' then .ok (none, rest)
      else if first then
        if b = byte '"' then .ok (some rest, []) else .error .malformed
      else if b ≠ byte ',' then .error .malformed
      else match skipBlanks rest with
        | [] => .error .cut
        | c :: after => if c = byte '"' then .ok (some after, []) else .error .malformed

/-- The bytes after the colon that follows a key. -/
def colon (bs : Bytes) : Except Fault Bytes :=
  match skipBlanks bs with
  | [] => .error .cut
  | b :: rest => if b = byte ':' then .ok rest else .error .malformed

/-- The entries from the next key on of an object whose keys are whole numbers. -/
def numberedEntries {α : Type} (reader : Reader α) (depth : Nat) :
    (steps : Nat) → (first : Bool) → Bytes → Except Fault (List (UInt32 × α) × Bytes)
  | 0, _, _ => .error .malformed
  | steps + 1, first, bs => do
      match ← nextKey first bs with
      | (none, rest) => pure ([], rest)
      | (some bs, _) =>
          match bs with
          | [] => throw .malformed
          | b :: _ =>
              if !(b = byte '-' || isDigit b) then throw .malformed
              let (k, rest) ← uint32 depth bs
              match rest with
              | [] => throw .malformed
              | c :: rest =>
                  if c ≠ byte '"' then throw .malformed
                  let rest ← colon rest
                  let (a, rest) ← reader depth rest
                  let (entries, rest) ← numberedEntries reader depth steps false rest
                  pure ((k, a) :: entries, rest)

/-- Reads an object whose keys are whole numbers of 32 bits, in the order of the document. -/
def numbered {α : Type} (reader : Reader α) : Reader (List (UInt32 × α)) := fun depth bs =>
  match skipBlanks bs with
  | [] => .error .cut
  | b :: rest =>
      if b ≠ byte '\x7b' then unexpected "a map" (b :: rest)
      else if depth ≤ 1 then .error .malformed
      else numberedEntries reader (depth - 1) (rest.length + 1) true rest

/-- Whether a field may be absent. -/
inductive Presence
  /-- It must be there. -/
  | required
  /-- An object may leave it out, a list of the fields may not. -/
  | optional
  /-- It has a default. -/
  | defaulted
  deriving DecidableEq

/-- A field of an object that is read into `σ`. -/
structure Field (σ : Type) where
  /-- The key. -/
  name : String
  presence : Presence
  /-- Reads the field's value and puts it in its place. -/
  read : σ → Reader σ
  /-- Other keys of the same field. -/
  aliases : List String

/-- The field that a key names. -/
def Field.find? {σ : Type} (fields : List (Field σ)) (key : String) : Option (Field σ) :=
  fields.find? fun f => f.name = key || f.aliases.contains key

/-- A field whose value a reader reads and a function puts in its place. -/
def field {σ α : Type} (name : String) (presence : Presence) (reader : Reader α) (set : σ → α → σ) :
    Field σ where
  name
  presence
  read s := fun depth bs => (reader depth bs).map fun (a, rest) => (set s a, rest)
  aliases := []

/-- The fields of an object from the next key on; `seen` has the names that were there. -/
def members {σ : Type} (fields : List (Field σ)) (depth : Nat) :
    (steps : Nat) → (first : Bool) → (seen : List String) → σ → Bytes → Except Fault (σ × Bytes)
  | 0, _, _, _, _ => .error .malformed
  | steps + 1, first, seen, s, bs => do
      match ← nextKey first bs with
      | (none, rest) =>
          match fields.find? fun f => f.presence = .required && !seen.contains f.name with
          | some f => throw (.mismatch (.missing f.name))
          | none => pure (s, rest)
      | (some bs, _) =>
          let (key, rest) ← string bs
          match Field.find? fields key with
          | none =>
              let rest ← skipValue (← colon rest)
              members fields depth steps false seen s rest
          | some f =>
              if seen.contains f.name then throw (.mismatch (.duplicate f.name))
              let (s, rest) ← f.read s depth (← colon rest)
              members fields depth steps false (f.name :: seen) s rest

/-- How an object of a title and a number of fields is called where a list of them is too short. -/
def titleWithCount (title : String) (count : Nat) : String :=
  title ++ " with " ++ toString count ++ (if count = 1 then " element" else " elements")

/-- The fields from the next one on of an object that is written as a list. -/
def positions {σ : Type} (tooShort : Nat → Mismatch) (depth : Nat) :
    (fields : List (Field σ)) → (index : Nat) → (ended : Bool) → σ → Bytes → Except Fault (σ × Bytes)
  | [], _, true, s, bs => .ok (s, bs)
  | [], _, false, s, bs =>
      match skipBlanks bs with
      | [] => .error .cut
      | b :: rest => if b = byte ']' then .ok (s, rest) else .error .malformed
  | f :: fields, index, true, s, bs =>
      if f.presence = .defaulted then positions tooShort depth fields (index + 1) true s bs
      else .error (.mismatch (tooShort index))
  | f :: fields, index, false, s, bs => do
      match ← nextElement (index = 0) bs with
      | (none, rest) =>
          if f.presence = .defaulted then positions tooShort depth fields (index + 1) true s rest
          else throw (.mismatch (tooShort index))
      | (some bs, _) =>
          let (s, rest) ← f.read s depth bs
          positions tooShort depth fields (index + 1) false s rest

/-- Reads an object of the given fields into a value that holds the defaults.  Other keys are skipped.  A
list is read as the fields in order. -/
def fields {σ : Type} (title : String) (fields : List (Field σ)) (blank : σ) : Reader σ :=
  fun depth bs =>
    match skipBlanks bs with
    | [] => .error .cut
    | b :: rest =>
        if b = byte '[' then
          if depth ≤ 1 then .error .malformed
          else positions (.short · (titleWithCount title fields.length)) (depth - 1) fields 0 false
            blank rest
        else if b = byte '\x7b' then
          if depth ≤ 1 then .error .malformed
          else members fields (depth - 1) (rest.length + 1) true [] blank rest
        else unexpected title (b :: rest)

/-- The value that a whole document holds. -/
def document {α : Type} (reader : Reader α) (bs : Bytes) : Except Fault α := do
  let (a, rest) ← reader maxDepth bs
  if (skipBlanks rest).isEmpty then pure a else throw .malformed

end MintDrop.Json
