import MintDrop.Bytes
import MintDrop.Text.Utf8
import MintDrop.Json.Fault

/-!
# Tokens of JSON

Blanks, literals, strings and numbers at the head of a byte string.  Each function returns what it read and
the bytes after it.  `Json.string` reads the inside of a string to its closing quote, `Json.number` a number,
and `Json.skipNumber` a number whose value does not matter.
-/

namespace MintDrop.Json

/-- The byte of an ASCII character. -/
def byte (c : Char) : UInt8 := UInt8.ofNat c.toNat

/-- Whether a byte is blank between tokens. -/
def isBlank (b : UInt8) : Bool := b = 0x20 || b = 0x0a || b = 0x09 || b = 0x0d

/-- The bytes after the blanks. -/
def skipBlanks (bs : Bytes) : Bytes := bs.dropWhile isBlank

/-- The bytes after the rest of a literal such as `true`. -/
def literal : (rest : Bytes) → Bytes → Except Fault Bytes
  | [], bs => .ok bs
  | _ :: _, [] => .error .cut
  | e :: es, b :: bs => if b = e then literal es bs else .error .malformed

/-! ### Strings -/

/-- How strictly a value is read whose content is dropped or kept. -/
inductive Care
  /-- The text must be sound: paired surrogates, UTF-8, numbers within the doubles, bounded depth. -/
  | sound
  /-- Only the form matters. -/
  | form
  deriving DecidableEq

/-- Where a string is being read. -/
inductive Inside
  /-- Between characters. -/
  | plain
  /-- After a backslash. -/
  | escape
  /-- After `\u` and some of its digits, the last one first, and after the surrogate before it. -/
  | hex (high : Option Nat) (digits : List UInt8)
  /-- After a high surrogate. -/
  | high (n : Nat)
  /-- After a high surrogate and a backslash. -/
  | highEscape (n : Nat)

/-- The byte that a one-letter escape stands for. -/
def escaped? (b : UInt8) : Option UInt8 :=
  if b = byte '"' || b = byte '\\' || b = byte '/' then some b
  else if b = byte 'b' then some 0x08
  else if b = byte 'f' then some 0x0c
  else if b = byte 'n' then some 0x0a
  else if b = byte 'r' then some 0x0d
  else if b = byte 't' then some 0x09
  else none

/-- The number of four hexadecimal digits, the last one first. -/
def hexNumber? (digits : List UInt8) : Option Nat :=
  digits.foldr (fun b n => do
    let n ← n
    let d ← Bytes.hexValue? (Char.ofNat b.toNat)
    pure (16 * n + d)) (some 0)

/-- What follows four hexadecimal digits: the bytes of a character, or a surrogate to be paired. -/
def afterHex (care : Care) (high : Option Nat) (n : Nat) : Except Fault (Bytes × Inside) :=
  match care, high with
  | .form, _ => .ok ([], .plain)
  | .sound, none =>
      if 0xdc00 ≤ n ∧ n ≤ 0xdfff then .error .malformed
      else if 0xd800 ≤ n ∧ n ≤ 0xdbff then .ok ([], .high n)
      else .ok (String.utf8EncodeChar (Char.ofNat n), .plain)
  | .sound, some h =>
      if 0xdc00 ≤ n ∧ n ≤ 0xdfff then
        .ok (String.utf8EncodeChar (Char.ofNat ((h - 0xd800) * 0x400 + (n - 0xdc00) + 0x10000)), .plain)
      else .error .malformed

/-- The bytes of a string up to its closing quote, after those already read (the last one first). -/
def stringFrom (care : Care) (read : Bytes) : Inside → Bytes → Except Fault (Bytes × Bytes)
  | _, [] => .error .cut
  | .plain, b :: rest =>
      if b = byte '"' then .ok (read.reverse, rest)
      else if b = byte '\\' then stringFrom care read .escape rest
      else if b < 0x20 then .error .malformed
      else stringFrom care (b :: read) .plain rest
  | .escape, b :: rest =>
      if b = byte 'u' then stringFrom care read (.hex none []) rest
      else match escaped? b with
        | some c => stringFrom care (c :: read) .plain rest
        | none => .error .malformed
  | .hex high digits, b :: rest =>
      if digits.length < 3 then stringFrom care read (.hex high (b :: digits)) rest
      else match hexNumber? (b :: digits) with
        | none => .error .malformed
        | some n =>
            match afterHex care high n with
            | .ok (bs, inside) => stringFrom care (bs.reverse ++ read) inside rest
            | .error e => .error e
  | .high n, b :: rest =>
      if b = byte '\\' then stringFrom care read (.highEscape n) rest else .error .malformed
  | .highEscape n, b :: rest =>
      if b = byte 'u' then stringFrom care read (.hex (some n) []) rest else .error .malformed

/-- The text of a string whose opening quote has been read. -/
def string (bs : Bytes) : Except Fault (String × Bytes) := do
  let (content, rest) ← stringFrom .sound [] .plain bs
  match Utf8.decode content with
  | .ok s => pure (s, rest)
  | .error _ => throw .malformed

/-- The bytes after a string whose opening quote has been read. -/
def skipString (care : Care) (bs : Bytes) : Except Fault Bytes :=
  match care with
  | .sound => (string bs).map Prod.snd
  | .form => (stringFrom .form [] .plain bs).map Prod.snd

/-! ### Numbers -/

/-- A number: whole within 64 bits, else a double. -/
inductive Number
  | whole (n : Int)
  | fraction (x : Float)

/-- A number that was found. -/
def Number.found : Number → Found
  | .whole n => .whole n
  | .fraction x => .fraction x

/-- Whether a byte is a decimal digit. -/
def isDigit (b : UInt8) : Bool := byte '0' ≤ b && b ≤ byte '9'

/-- The value of a digit. -/
def digitValue (b : UInt8) : Nat := b.toNat - 0x30

/-- The digits at the head and the bytes after them. -/
def digits (bs : Bytes) : Bytes × Bytes := bs.span isDigit

/-- A significand extended by digits as long as it stays within 64 bits, with the number of digits
that are left. -/
def extend (n : Nat) : List UInt8 → Nat × Nat
  | [] => (n, 0)
  | d :: ds =>
      if 10 * n + digitValue d < UInt64.size then extend (10 * n + digitValue d) ds
      else (n, ds.length + 1)

/-- The largest exponent of ten that a double holds. -/
def maxExponent : Nat := 308

/-- A significand times a power of ten: one product or quotient for each step of at most 308 places.
Numbers beyond the doubles are refused. -/
def scaled (x : Float) (e : Int) : Except Fault Float :=
  if _h : maxExponent < e.natAbs then
    if x == 0 then .ok x
    else if 0 < e then .error .malformed
    else scaled (x / Double.ofDecimal 1 maxExponent) (e + maxExponent)
  else if 0 ≤ e then
    let y := x * Double.ofDecimal 1 e
    if y.isInf then .error .malformed else .ok y
  else .ok (x / Double.ofDecimal 1 e.natAbs)
termination_by e.natAbs
decreasing_by simp only [maxExponent] at *; omega

/-- The double of a sign, a significand and an exponent. -/
def double (positive : Bool) (significand : Nat) (e : Int) : Except Fault Float := do
  let x ← scaled significand.toUInt64.toFloat e
  pure (if positive then x else -x)

/-- The largest exponent that is counted. -/
def maxCounted : Nat := 2147483647

/-- A number from its exponent mark on. -/
def exponentPart (positive : Bool) (significand : Nat) (e : Int) (bs : Bytes) :
    Except Fault (Number × Bytes) :=
  let (negative, bs) := match bs with
    | b :: rest => if b = byte '-' then (true, rest) else if b = byte '+' then (false, rest) else (false, bs)
    | [] => (false, [])
  match bs with
  | [] => .error .cut
  | b :: _ =>
      if !isDigit b then .error .malformed
      else
        let (ds, rest) := digits bs
        let n := ds.foldl (fun n d => 10 * n + digitValue d) 0
        if maxCounted < n then
          if significand ≠ 0 ∧ !negative then .error .malformed
          else .ok (.fraction (if positive then 0 else -0.0), rest)
        else do
          let x ← double positive significand (if negative then e - n else e + n)
          pure (.fraction x, rest)

/-- A number from its exponent mark on, if it has one. -/
def fractionEnd (positive : Bool) (significand : Nat) (e : Int) (bs : Bytes) :
    Except Fault (Number × Bytes) :=
  match bs with
  | b :: rest =>
      if b = byte 'e' || b = byte 'E' then exponentPart positive significand e rest
      else (double positive significand e).map fun x => (.fraction x, bs)
  | [] => (double positive significand e).map fun x => (.fraction x, [])

/-- A number from its point on. -/
def fractionPart (positive : Bool) (significand : Nat) (e : Int) (bs : Bytes) :
    Except Fault (Number × Bytes) :=
  let (ds, rest) := digits bs
  if ds.isEmpty then .error (if rest.isEmpty then .cut else .malformed)
  else
    let (significand, left) := extend significand ds
    fractionEnd positive significand (e - (ds.length - left : Nat)) rest

/-- A number without point and exponent, of which `left` digits are beyond the significand. -/
def wholeEnd (positive : Bool) (significand left : Nat) : Except Fault Number :=
  if left ≠ 0 then (double positive significand left).map .fraction
  else if positive then .ok (.whole significand)
  else if significand = 0 ∨ Nat.pow 2 63 < significand then .ok (.fraction (-significand.toUInt64.toFloat))
  else .ok (.whole (-significand))

/-- A number whose sign has been read. -/
def unsignedNumber (positive : Bool) (bs : Bytes) : Except Fault (Number × Bytes) :=
  let (ds, rest) := digits bs
  match ds with
  | [] => .error (if rest.isEmpty then .cut else .malformed)
  | d :: more =>
      if d = byte '0' ∧ !more.isEmpty then .error .malformed
      else
        let (significand, left) := extend 0 ds
        match rest with
        | b :: after =>
            if b = byte '.' then fractionPart positive significand left after
            else if b = byte 'e' || b = byte 'E' then exponentPart positive significand left after
            else (wholeEnd positive significand left).map (·, rest)
        | [] => (wholeEnd positive significand left).map (·, [])

/-- A number that begins with a digit or a minus sign. -/
def number (bs : Bytes) : Except Fault (Number × Bytes) :=
  match bs with
  | b :: rest => if b = byte '-' then unsignedNumber false rest else unsignedNumber true bs
  | [] => .error .cut

/-- The bytes after one or more digits. -/
def skipDigits (bs : Bytes) : Except Fault Bytes :=
  let (ds, rest) := digits bs
  if ds.isEmpty then .error .malformed else .ok rest

/-- The bytes after an exponent whose mark has been read. -/
def skipExponent (bs : Bytes) : Except Fault Bytes :=
  match bs with
  | b :: rest => if b = byte '+' || b = byte '-' then skipDigits rest else skipDigits bs
  | [] => .error .malformed

/-- The bytes after a number whose sign has been read, of which only the form matters. -/
def skipNumber (bs : Bytes) : Except Fault Bytes :=
  match digits bs with
  | ([], _) => .error .malformed
  | (d :: more, rest) =>
      if d = byte '0' ∧ !more.isEmpty then .error .malformed
      else match rest with
        | b :: after =>
            if b = byte '.' then do
              let rest ← skipDigits after
              match rest with
              | b :: after => if b = byte 'e' || b = byte 'E' then skipExponent after else pure rest
              | [] => pure []
            else if b = byte 'e' || b = byte 'E' then skipExponent after
            else .ok rest
        | [] => .ok []

end MintDrop.Json
