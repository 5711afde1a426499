import MintDrop.Calendar.Date
import MintDrop.Number.Natural
import MintDrop.Text.Blank

/-!
# Written dates

Four ways to write a moment: `rfc3339`, `rfc2822`, `dateTime` (year to second with blanks between day and
time) and `dateOnly`; the last two are in universal time.  `Calendar.moment?` tries them in this order.
-/

namespace MintDrop.Calendar

/-- Reads something at the head of a text. -/
abbrev Scan (α : Type) := List Char → Option (α × List Char)

/-! ### Pieces -/

/-- The digits at the head, with the text after them. -/
def digitRun (cs : List Char) : List Char × List Char := cs.span Char.isDigit

/-- A number of at least `least` digits, of which at most `most` are taken. -/
def number (least most : Nat) : Scan Nat := fun cs =>
  let run := (digitRun cs).1.take most
  if run.length < least then none else some (Natural.ofDigits run, cs.drop run.length)

/-- A number of two digits. -/
def twoDigits : Scan Nat := number 2 2

/-- A given character. -/
def char (c : Char) : Scan Unit
  | [] => none
  | d :: rest => if d = c then some ((), rest) else none

/-- Blanks, at least one. -/
def blanks : Scan Unit := fun cs =>
  let rest := Text.trimLeft cs
  if rest.length < cs.length then some ((), rest) else none

/-- A moment with nothing after it that exists. -/
def finish : Option (Moment × List Char) → Option Moment
  | some (m, []) => if m.isValid then some m else none
  | _ => none

/-! ### RFC 3339 -/

/-- A sign; the minus sign U+2212 is one. -/
def sign : Scan Int
  | '+' :: rest => some (1, rest)
  | '-' :: rest => some (-1, rest)
  | '−' :: rest => some (-1, rest)
  | _ => none

/-- Minutes of an offset, below 60. -/
def offsetMinutes : Scan Nat := fun cs => do
  let (m, rest) ← twoDigits cs
  if m < 60 then pure (m, rest) else none

/-- An offset in hours and minutes, or a `Z`. -/
def offset3339 : Scan Int
  | 'Z' :: rest => some (0, rest)
  | 'z' :: rest => some (0, rest)
  | cs => do
      let (s, rest) ← sign cs
      let (h, rest) ← twoDigits rest
      let (_, rest) ← char ':' rest
      let (m, rest) ← offsetMinutes rest
      pure (s * (3600 * h + 60 * m), rest)

/-- A fraction of a second, which does not count. -/
def fraction : Scan Unit
  | '.' :: rest =>
      let (ds, rest) := digitRun rest
      if ds.isEmpty then none else some ((), rest)
  | cs => some ((), cs)

/-- The mark between day and time. -/
def timeMark : Scan Unit
  | 'T' :: rest => some ((), rest)
  | 't' :: rest => some ((), rest)
  | ' ' :: rest => some ((), rest)
  | _ => none

/-- A moment such as `2022-01-01T00:00:00+01:00`. -/
def rfc3339 (cs : List Char) : Option Moment := finish do
  let (year, cs) ← number 4 4 cs
  let (_, cs) ← char '-' cs
  let (month, cs) ← twoDigits cs
  let (_, cs) ← char '-' cs
  let (day, cs) ← twoDigits cs
  let (_, cs) ← timeMark cs
  let (hour, cs) ← twoDigits cs
  let (_, cs) ← char ':' cs
  let (minute, cs) ← twoDigits cs
  let (_, cs) ← char ':' cs
  let (second, cs) ← twoDigits cs
  let (_, cs) ← fraction cs
  let (offset, cs) ← offset3339 cs
  pure (⟨⟨year, month, day⟩, ⟨hour, minute, second⟩, offset⟩, cs)

/-! ### RFC 2822 -/

/-- The place in a list of the three letters at the head, in either case. -/
def abbreviation (names : List String) : Scan Nat
  | a :: b :: c :: rest =>
      (names.idxOf? (String.ofList [a.toLower, b.toLower, c.toLower])).map (·, rest)
  | _ => none

/-- The short names of the days of the week. -/
def weekdays : List String := ["sun", "mon", "tue", "wed", "thu", "fri", "sat"]

/-- The short names of the months. -/
def months : List String :=
  ["jan", "feb", "mar", "apr", "may", "jun", "jul", "aug", "sep", "oct", "nov", "dec"]

/-- A year of two or more digits: below 50 of this century, of two digits from 50 on and of three digits
of the last one. -/
def year2822 : Scan Nat := fun cs =>
  let (ds, rest) := digitRun cs
  let n := Natural.ofDigits ds
  if ds.length < 2 then none
  else if ds.length = 2 then some (if n < 50 then n + 2000 else n + 1900, rest)
  else if ds.length = 3 then some (n + 1900, rest)
  else some (n, rest)

/-- The hours of a named zone. -/
def zoneHours? (name : List Char) : Option Int :=
  match String.ofList (name.map Char.toLower) with
  | "gmt" | "ut" => some 0
  | "edt" => some (-4)
  | "est" | "cdt" => some (-5)
  | "cst" | "mdt" => some (-6)
  | "mst" | "pdt" => some (-7)
  | "pst" => some (-8)
  | _ =>
      match name with
      | [c] => if c.toLower = 'j' then none else some 0
      | _ => none

/-- A zone: a name, a letter other than `J`, or an offset of four digits. -/
def zone2822 : Scan Int := fun cs =>
  let (name, rest) := cs.span Char.isAlpha
  if name.isEmpty then
    match cs with
    | c :: rest =>
        if c = '+' ∨ c = '-' then do
          let (h, rest) ← twoDigits rest
          let (m, rest) ← offsetMinutes rest
          pure ((if c = '-' then -1 else 1) * (3600 * h + 60 * m), rest)
        else none
    | [] => none
  else (zoneHours? name).map fun h => (3600 * h, rest)

/-- The text after a comment of `depth` open parentheses; a backslash takes the next character away. -/
def commentEnd : (depth : Nat) → (escaped : Bool) → List Char → Option (List Char)
  | _, _, [] => none
  | depth, true, _ :: rest => commentEnd depth false rest
  | depth, false, c :: rest =>
      if c = '\\' then commentEnd depth true rest
      else if c = '(' then commentEnd (depth + 1) false rest
      else if c = ')' then
        if depth ≤ 1 then some rest else commentEnd (depth - 1) false rest
      else commentEnd depth false rest

/-- The text after the comments at its head. -/
def skipComments : (count : Nat) → List Char → List Char
  | 0, cs => cs
  | count + 1, cs =>
      match Text.trimLeft cs with
      | '(' :: rest =>
          match commentEnd 1 false rest with
          | some rest => skipComments count rest
          | none => cs
      | _ => cs

/-- A day of the week and a comma, if they are there. -/
def weekdayPart (cs : List Char) : Option (Option Nat × List Char) :=
  match abbreviation weekdays cs with
  | none => some (none, cs)
  | some (w, ',' :: rest) => some (some w, rest)
  | some _ => none

/-- A moment such as `Sat, 01 Jan 2022 00:00:00 GMT`. -/
def rfc2822 (cs : List Char) : Option Moment := do
  let (weekday, cs) ← weekdayPart (Text.trimLeft cs)
  let (day, cs) ← number 1 2 (Text.trimLeft cs)
  let (_, cs) ← blanks cs
  let (month, cs) ← abbreviation months cs
  let (_, cs) ← blanks cs
  let (year, cs) ← year2822 cs
  let (_, cs) ← blanks cs
  let (hour, cs) ← twoDigits cs
  let (_, cs) ← char ':' (Text.trimLeft cs)
  let (minute, cs) ← twoDigits (Text.trimLeft cs)
  let (second, cs) ← match char ':' (Text.trimLeft cs) with
    | some (_, rest) => twoDigits rest
    | none => some (0, cs)
  let (_, cs) ← blanks cs
  let (offset, cs) ← zone2822 cs
  let cs := skipComments cs.length cs
  let m ← finish (some (⟨⟨year, month + 1, day⟩, ⟨hour, minute, second⟩, offset⟩, cs))
  if weekday.all (· = m.date.weekday) then pure m else none

/-! ### Fields with blanks -/

/-- A year with an optional sign; without one it has at most four digits. -/
def signedYear : Scan Int := fun cs =>
  match Text.trimLeft cs with
  | '-' :: rest => (number 1 rest.length rest).map fun (n, rest) => (-(n : Int), rest)
  | '+' :: rest => (number 1 rest.length rest).map fun (n, rest) => ((n : Int), rest)
  | cs => (number 1 4 cs).map fun (n, rest) => ((n : Int), rest)

/-- A number of one or two digits after blanks. -/
def shortNumber : Scan Nat := fun cs => number 1 2 (Text.trimLeft cs)

/-- Year, month and day with hyphens. -/
def dateFields : Scan Date := fun cs => do
  let (year, cs) ← signedYear cs
  let (_, cs) ← char '-' cs
  let (month, cs) ← shortNumber cs
  let (_, cs) ← char '-' cs
  let (day, cs) ← shortNumber cs
  pure (⟨year, month, day⟩, cs)

/-- Hour, minute and second with colons. -/
def clockFields : Scan Clock := fun cs => do
  let (hour, cs) ← shortNumber cs
  let (_, cs) ← char ':' cs
  let (minute, cs) ← shortNumber cs
  let (_, cs) ← char ':' cs
  let (second, cs) ← shortNumber cs
  pure (⟨hour, minute, second⟩, cs)

/-- A moment such as `2022-01-01 00:00:00`. -/
def dateTime (cs : List Char) : Option Moment := finish do
  let (date, cs) ← dateFields cs
  let (clock, cs) ← clockFields cs
  pure (⟨date, clock, 0⟩, cs)

/-- A day such as `2022-01-01`, from its midnight. -/
def dateOnly (cs : List Char) : Option Moment := finish do
  let (date, cs) ← dateFields cs
  pure (⟨date, .midnight, 0⟩, cs)

/-- The moment that a text names, in the first of the four ways that it follows. -/
def moment? (cs : List Char) : Option Moment :=
  rfc3339 cs <|> rfc2822 cs <|> dateTime cs <|> dateOnly cs

/-- The seconds from 1970 of the moment that a text names, blanks at its ends aside; `now` names the
present. -/
def parseSeconds? (now : Int) (s : String) : Option Int :=
  let cs := Text.trimChars s.toList
  if cs = ['n', 'o', 'w'] then some now else (moment? cs).map Moment.seconds

end MintDrop.Calendar
