import MintDrop.Bytes
import MintDrop.Calendar.Date
import MintDrop.Number.Double
import MintDrop.Toml.Value

/-!
# Keys and scalars of TOML

Strings, keys, numbers and dates at the head of a text, each returned with the text after it.
-/

namespace MintDrop.Toml

/-- Reads something at the head of a text. -/
abbrev Scan (α : Type) := List Char → Option (α × List Char)

/-! ### Blanks and comments -/

/-- Whether a character is blank within a line. -/
def isBlank (c : Char) : Bool := c = ' ' || c = '\t'

/-- The text after the blanks. -/
def skipBlanks (cs : List Char) : List Char := cs.dropWhile isBlank

/-- Whether a character may stand in a comment or a literal string. -/
def isTextChar (c : Char) : Bool := c = '\t' || (0x20 ≤ c.toNat && c.toNat ≠ 0x7f)

/-- The text after a comment, if one begins here. -/
def skipComment (cs : List Char) : List Char :=
  match cs with
  | '#' :: rest => rest.dropWhile isTextChar
  | cs => cs

/-- The text after a line end. -/
def newline? : List Char → Option (List Char)
  | '\n' :: rest => some rest
  | '\r' :: '\n' :: rest => some rest
  | _ => none

/-- The text after blanks, comments and line ends. -/
def skipLines : (steps : Nat) → List Char → List Char
  | 0, cs => cs
  | steps + 1, cs =>
      match newline? (skipComment (skipBlanks cs)) with
      | some rest => skipLines steps rest
      | none => skipComment (skipBlanks cs)

/-! ### Strings -/

/-- The character of some hexadecimal digits, unless there is none. -/
def unicodeChar? (digits : List Char) : Option Char := do
  let n ← digits.foldlM (fun n c => (Bytes.hexValue? c).map (16 * n + ·)) 0
  if n.isValidChar then some (Char.ofNat n) else none

/-- The character of an escape whose backslash has been read. -/
def escape : Scan Char
  | 'b' :: rest => some ('\x08', rest)
  | 't' :: rest => some ('\t', rest)
  | 'n' :: rest => some ('\n', rest)
  | 'f' :: rest => some ('\x0c', rest)
  | 'r' :: rest => some ('\r', rest)
  | '"' :: rest => some ('"', rest)
  | '\\' :: rest => some ('\\', rest)
  | 'u' :: rest =>
      if (rest.take 4).length = 4 then (unicodeChar? (rest.take 4)).map (·, rest.drop 4) else none
  | 'U' :: rest =>
      if (rest.take 8).length = 8 then (unicodeChar? (rest.take 8)).map (·, rest.drop 8) else none
  | _ => none

/-- The rest of a string on one line with escapes, after its opening quote. -/
def basicRest : (steps : Nat) → (read : List Char) → Scan String
  | 0, _, _ => none
  | _ + 1, _, [] => none
  | steps + 1, read, c :: rest =>
      if c = '"' then some (String.ofList read.reverse, rest)
      else if c = '\\' then do
        let (d, rest) ← escape rest
        basicRest steps (d :: read) rest
      else if isTextChar c then basicRest steps (c :: read) rest
      else none

/-- The rest of a string on one line without escapes, after its opening quote. -/
def literalRest (cs : List Char) : Option (String × List Char) :=
  match cs.span fun c => isTextChar c && c ≠ '\'' with
  | (content, '\'' :: rest) => some (String.ofList content, rest)
  | _ => none

/-- The text after a line end inside a string, and after the blanks and line ends that follow it. -/
def skipFold : (steps : Nat) → List Char → List Char
  | 0, cs => cs
  | steps + 1, cs =>
      match newline? (skipBlanks cs) with
      | some rest => skipFold steps rest
      | none => skipBlanks cs

/-- The rest of a string over several lines, up to three quotes; two more may precede them. -/
def multilineRest (quote : Char) : (steps : Nat) → (read : List Char) → Scan String
  | 0, _, _ => none
  | _ + 1, _, [] => none
  | steps + 1, read, c :: rest =>
      if c = quote then
        let run := min ((c :: rest).takeWhile (· = quote)).length 5
        let after := (c :: rest).drop run
        if run < 3 then multilineRest quote steps (List.replicate run quote ++ read) after
        else some (String.ofList (List.replicate (run - 3) quote ++ read).reverse, after)
      else if c = '\\' ∧ quote = '"' then
        match newline? (skipBlanks rest) with
        | some rest => multilineRest quote steps read (skipFold steps rest)
        | none => do
            let (d, rest) ← escape rest
            multilineRest quote steps (d :: read) rest
      else match newline? (c :: rest) with
        | some rest => multilineRest quote steps ('\n' :: read) rest
        | none => if isTextChar c then multilineRest quote steps (c :: read) rest else none

/-- A string over several lines, after its opening quotes; a line end right after them does not
count. -/
def multiline (quote : Char) : Scan String := fun cs =>
  multilineRest quote (cs.length + 1) [] ((newline? cs).getD cs)

/-- A string of any form. -/
def string : Scan String
  | '"' :: '"' :: '"' :: rest => multiline '"' rest
  | '\'' :: '\'' :: '\'' :: rest => multiline '\'' rest
  | '"' :: rest => basicRest (rest.length + 1) [] rest
  | '\'' :: rest => literalRest rest
  | _ => none

/-! ### Keys -/

/-- Whether a character may stand in a key without quotes. -/
def isKeyChar (c : Char) : Bool := c.isAlphanum || c = '-' || c = '_'

/-- A key without dots. -/
def simpleKey : Scan String
  | '"' :: rest => basicRest (rest.length + 1) [] rest
  | '\'' :: rest => literalRest rest
  | cs =>
      let (name, rest) := cs.span isKeyChar
      if name.isEmpty then none else some (String.ofList name, rest)

/-- The most levels of keys and values. -/
def maxDepth : Nat := 80

/-- A key and its parts after dots, with the blanks around them. -/
def keyParts : (steps : Nat) → Scan (List String)
  | 0, _ => none
  | steps + 1, cs => do
      let (part, rest) ← simpleKey (skipBlanks cs)
      match skipBlanks rest with
      | '.' :: rest =>
          let (parts, rest) ← keyParts steps rest
          pure (part :: parts, rest)
      | rest => pure ([part], rest)

/-- A key: its parts but the last, and the last. -/
def key : Scan (List String × String) := fun cs => do
  let (parts, rest) ← keyParts (cs.length + 1) cs
  let last ← parts.getLast?
  if maxDepth ≤ parts.length then none else pure ((parts.dropLast, last), rest)

/-! ### Numbers -/

/-- Digits of a kind with single underscores between them. -/
def digitGroups (isDigit : Char → Bool) : (steps : Nat) → Scan (List Char)
  | 0, _ => none
  | steps + 1, cs =>
      let (ds, rest) := cs.span isDigit
      if ds.isEmpty then none
      else match rest with
        | '_' :: rest => do
            let (more, rest) ← digitGroups isDigit steps rest
            pure (ds ++ more, rest)
        | rest => some (ds, rest)

/-- Decimal digits with single underscores between them. -/
def decimalDigits : Scan (List Char) := fun cs => digitGroups Char.isDigit (cs.length + 1) cs

/-- The number of digits in a base. -/
def ofDigits (base : Nat) (ds : List Char) : Nat :=
  ds.foldl (fun n c => base * n + (Bytes.hexValue? c).getD 0) 0

/-- An integer of 64 bits. -/
def bounded (n : Int) : Option Value :=
  if Int64.minValue.toInt ≤ n ∧ n ≤ Int64.maxValue.toInt then some (.integer n) else none

/-- An integer whose base mark has been read. -/
def based (base : Nat) : Scan Value := fun cs => do
  let isDigit (c : Char) : Bool := (Bytes.hexValue? c).any (· < base)
  let (ds, rest) ← digitGroups isDigit (cs.length + 1) cs
  pure (← bounded (ofDigits base ds), rest)

/-- A sign, if there is one: whether it is a minus, and whether it is there. -/
def sign : List Char → Bool × Bool × List Char
  | '+' :: rest => (false, true, rest)
  | '-' :: rest => (true, true, rest)
  | cs => (false, false, cs)

/-- Decimal digits after an optional sign. -/
def signedDigits : Scan Int := fun cs => do
  let (negative, _, rest) := sign cs
  let (ds, rest) ← decimalDigits rest
  let n : Int := ofDigits 10 ds
  pure (if negative then -n else n, rest)

/-- The exponent of a float, if there is one. -/
def exponent : Scan (Option Int)
  | 'e' :: rest => (signedDigits rest).map fun (n, rest) => (some n, rest)
  | 'E' :: rest => (signedDigits rest).map fun (n, rest) => (some n, rest)
  | cs => some (none, cs)

/-- A number that is not marked by a base; a float that is too large is refused unless it is negative. -/
def decimalNumber : Scan Value := fun cs => do
  let (negative, _, rest) := sign cs
  let (ds, rest) ← decimalDigits rest
  if ds.length ≠ 1 ∧ ds.head? = some '0' then none
  else
    let (fraction, rest) ← match rest with
      | '.' :: rest => (decimalDigits rest).map fun (fs, rest) => (some fs, rest)
      | rest => some (none, rest)
    let (e, rest) ← exponent rest
    if fraction.isNone ∧ e.isNone then
      let n : Int := ofDigits 10 ds
      pure (← bounded (if negative then -n else n), rest)
    else
      let fs := fraction.getD []
      let x := Double.ofDecimal (ofDigits 10 (ds ++ fs)) (e.getD 0 - fs.length)
      if negative ∨ x.isFinite then pure (.float, rest) else none

/-- A number. -/
def number : Scan Value
  | '0' :: 'x' :: rest => based 16 rest
  | '0' :: 'o' :: rest => based 8 rest
  | '0' :: 'b' :: rest => based 2 rest
  | cs =>
      let (_, _, rest) := sign cs
      match rest with
      | 'i' :: 'n' :: 'f' :: rest => some (.float, rest)
      | 'n' :: 'a' :: 'n' :: rest => some (.float, rest)
      | _ => decimalNumber cs

/-! ### Dates and times -/

/-- Some decimal digits. -/
def fixedDigits (count : Nat) : Scan Nat := fun cs =>
  let ds := cs.take count
  if ds.length = count ∧ ds.all Char.isDigit then some (ofDigits 10 ds, cs.drop count) else none

/-- A given character. -/
def char (c : Char) : Scan Unit
  | [] => none
  | d :: rest => if c = d then some ((), rest) else none

/-- A day that exists, as it is written. -/
def fullDate : Scan (List Char) := fun cs => do
  let (year, rest) ← fixedDigits 4 cs
  let (_, rest) ← char '-' rest
  let (month, rest) ← fixedDigits 2 rest
  let (_, rest) ← char '-' rest
  let (day, rest) ← fixedDigits 2 rest
  if Date.isValid ⟨year, month, day⟩ then pure (cs.take 10, rest) else none

/-- Decimals of a second: what goes beyond nanoseconds is cut off, and zeros at the end are left out. -/
def secondFraction (ds : List Char) : List Char :=
  match ((ds.take 9).reverse.dropWhile (· = '0')).reverse with
  | [] => []
  | ds => '.' :: ds

/-- A time of day that exists, with as many decimals as it needs. -/
def partialTime : Scan (List Char) := fun cs => do
  let (hour, rest) ← fixedDigits 2 cs
  let (_, rest) ← char ':' rest
  let (minute, rest) ← fixedDigits 2 rest
  let (_, rest) ← char ':' rest
  let (second, rest) ← fixedDigits 2 rest
  if !Clock.isValid ⟨hour, minute, second⟩ then none
  else match rest with
    | '.' :: rest =>
        let (ds, rest) := rest.span Char.isDigit
        if ds.isEmpty then none else pure (cs.take 8 ++ secondFraction ds, rest)
    | rest => pure (cs.take 8, rest)

/-- An offset from universal time; one of nothing is positive. -/
def timeOffset : Scan (List Char)
  | 'Z' :: rest => some (['Z'], rest)
  | 'z' :: rest => some (['Z'], rest)
  | c :: digits => do
      if c ≠ '+' ∧ c ≠ '-' then failure
      let (hour, rest) ← fixedDigits 2 digits
      let (_, rest) ← char ':' rest
      let (minute, rest) ← fixedDigits 2 rest
      let sign := if hour = 0 ∧ minute = 0 then '+' else c
      if hour < 24 ∧ minute < 60 then pure (sign :: digits.take 5, rest) else none
  | [] => none

/-- A time with an optional offset. -/
def timeAndOffset : Scan (List Char) := fun cs => do
  let (time, rest) ← partialTime cs
  match timeOffset rest with
  | some (offset, rest) => pure (time ++ offset, rest)
  | none => pure (time, rest)

/-- A date with an optional time behind `T` or a blank. -/
def dateAndTime : Scan (List Char) := fun cs => do
  let (date, rest) ← fullDate cs
  match rest with
  | c :: after =>
      if c ≠ 'T' ∧ c ≠ 't' ∧ c ≠ ' ' then pure (date, rest)
      else match timeAndOffset after with
        | some (time, rest) => pure (date ++ 'T' :: time, rest)
        | none => pure (date, rest)
  | [] => pure (date, rest)

/-- A date, a time or both, in one form. -/
def datetime : Scan Value := fun cs =>
  ((dateAndTime cs).or (partialTime cs)).map fun (text, rest) => (.datetime (String.ofList text), rest)

/-- A date or a number. -/
def dateOrNumber : Scan Value := fun cs =>
  match datetime cs with
  | some r => some r
  | none => number cs

end MintDrop.Toml
