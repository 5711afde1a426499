import MintDrop.Bytes

/-!
# Numeric hosts

Hosts that are numbers: `Ipv4.isHost` for up to four numbers between dots, each in octal, decimal or
hexadecimal, and `Ipv6.isHost` for eight groups of hexadecimal digits, a run of which may be left out.
-/

namespace MintDrop.Url

/-- The pieces of a text between separators. -/
def pieces (separator : Char) : List Char → List (List Char)
  | [] => [[]]
  | c :: cs =>
      if c = separator then [] :: pieces separator cs
      else match pieces separator cs with
        | piece :: rest => (c :: piece) :: rest
        | [] => [[c]]

namespace Ipv4

/-- The number of digits in a base. -/
def ofDigits? (base : Nat) (ds : List Char) : Option Nat :=
  ds.foldlM (fun n c => do
    let digit ← Bytes.hexValue? c
    if digit < base then pure (base * n + digit) else none) 0

/-- The number of a part: hexadecimal behind `0x`, octal behind another zero, else decimal. -/
def part? : List Char → Option Nat
  | [] => none
  | '0' :: 'x' :: ds => ofDigits? 16 ds
  | '0' :: 'X' :: ds => ofDigits? 16 ds
  | '0' :: d :: ds => ofDigits? 8 (d :: ds)
  | ds => ofDigits? 10 ds

/-- The parts of a host, without the empty one after a dot at the end. -/
def parts (host : List Char) : List (List Char) :=
  let ps := pieces '.' host
  if 1 < ps.length ∧ ps.getLast? = some [] then ps.dropLast else ps

/-- Whether a host claims to be numeric: its last part is a number. -/
def isClaimed (host : List Char) : Bool :=
  match (parts host).getLast? with
  | some last => (!last.isEmpty && last.all Char.isDigit) || (part? last).isSome
  | none => false

/-- Whether a host is an address: the last number fills the bytes that the others, one each, leave. -/
def isHost (host : List Char) : Bool :=
  match (parts host).mapM part? with
  | none => false
  | some ns =>
      match ns.reverse with
      | [] => false
      | last :: others => others.length ≤ 3 && last < Nat.pow 256 (4 - others.length) && others.all (· < 256)

end Ipv4

namespace Ipv6

/-- Whether a text is a decimal number below 256 without a leading zero. -/
def isByte (ds : List Char) : Bool :=
  !ds.isEmpty && ds.all Char.isDigit && (ds = ['0'] || ds.head? ≠ some '0')
    && (Ipv4.ofDigits? 10 ds).any (· < 256)

/-- Whether a text is four numbers between dots. -/
def isDotted (cs : List Char) : Bool := (pieces '.' cs).length = 4 && (pieces '.' cs).all isByte

/-- Whether a text is a group of one to four hexadecimal digits. -/
def isGroup (cs : List Char) : Bool :=
  !cs.isEmpty && cs.length ≤ 4 && cs.all fun c => (Bytes.hexValue? c).isSome

/-- The number of groups in a list without a gap; the last one may be dotted and counts twice. -/
def groupCount? : List (List Char) → Option Nat
  | [] => some 0
  | [g] => if isGroup g then some 1 else if isDotted g then some 2 else none
  | g :: gs => if isGroup g then (groupCount? gs).map (1 + ·) else none

/-- The groups of a text that may be empty. -/
def groups (cs : List Char) : List (List Char) := if cs.isEmpty then [] else pieces ':' cs

/-- The text before and after the first two colons in a row. -/
def splitGap? : List Char → Option (List Char × List Char)
  | ':' :: ':' :: after => some ([], after)
  | c :: cs => (splitGap? cs).map fun (before, after) => (c :: before, after)
  | [] => none

/-- Whether a text is an address: eight groups, or fewer with a gap. -/
def isHost (cs : List Char) : Bool :=
  match splitGap? cs with
  | none => groupCount? (groups cs) = some 8
  | some (before, after) =>
      match (groups before).all isGroup, groupCount? (groups after) with
      | true, some count => (groups before).length + count ≤ 7
      | _, _ => false

end Ipv6

end MintDrop.Url
