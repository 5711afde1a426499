import MintDrop.Number.Natural
import MintDrop.Text.Utf8
import MintDrop.Url.Domain

/-!
# Absolute addresses of network nodes

`Url.check` says whether a text is an absolute URL, and else what is wrong with it.  Only the scheme, the
credentials, the host and the port can be wrong; paths and queries take every text.
-/

namespace MintDrop.Url

/-- Why a text is no absolute URL. -/
inductive Fault
  /-- There is no scheme. -/
  | relative
  | emptyHost
  | port
  | ipv4
  | ipv6
  /-- A host of an unknown scheme has a forbidden character. -/
  | domainCharacter
  /-- A host of a known scheme is no domain name. -/
  | domainName
  deriving DecidableEq

/-- The wording of a fault. -/
def Fault.message : Fault → String
  | .relative => "relative URL without a base"
  | .emptyHost => "empty host"
  | .port => "invalid port number"
  | .ipv4 => "invalid IPv4 address"
  | .ipv6 => "invalid IPv6 address"
  | .domainCharacter => "invalid domain character"
  | .domainName => "invalid international domain name"

/-! ### Schemes -/

/-- How the text after a scheme is read. -/
inductive Scheme
  /-- A network protocol, whose URLs always have a host. -/
  | network
  /-- Files, whose URLs may have a host without a port. -/
  | file
  | other
  deriving DecidableEq

/-- The kind of a scheme. -/
def Scheme.ofName (name : String) : Scheme :=
  if ["http", "https", "ws", "wss", "ftp"].contains name then .network
  else if name = "file" then .file
  else .other

/-- Whether a character may stand in the name of a scheme. -/
def isSchemeChar (c : Char) : Bool := c.isAlphanum || c = '+' || c = '-' || c = '.'

/-- The scheme at the head of a text, with the text after its colon. -/
def scheme? (cs : List Char) : Option (Scheme × List Char) :=
  match cs.span isSchemeChar with
  | (c :: name, ':' :: rest) =>
      if c.isAlpha then some (.ofName (String.ofList ((c :: name).map Char.toLower)), rest) else none
  | _ => none

/-! ### Hosts -/

/-- Whether a character is a slash, for schemes that do not tell backslashes from slashes. -/
def isSlash (c : Char) : Bool := c = '/' || c = '\\'

/-- Whether a character ends the part with credentials, host and port. -/
def endsAuthority (isKnown : Bool) (c : Char) : Bool :=
  c = '/' || c = '?' || c = '#' || (isKnown && c = '\\')

/-- The bytes of a text in which a per cent sign before two hexadecimal digits stands for a byte. -/
def percentDecode : List Char → Bytes
  | [] => []
  | '%' :: h :: l :: cs =>
      match Bytes.hexValue? h, Bytes.hexValue? l with
      | some high, some low => UInt8.ofNat (16 * high + low) :: percentDecode cs
      | _, _ => 0x25 :: percentDecode (h :: l :: cs)
  | c :: cs => String.utf8EncodeChar c ++ percentDecode cs
termination_by cs => cs.length

/-- The inside of brackets, checked as an address. -/
def checkBracketed (cs : List Char) : Except Fault Unit :=
  match cs.reverse with
  | ']' :: inside => if Ipv6.isHost inside.reverse then .ok () else .error .ipv6
  | _ => .error .ipv6

/-- Checks a domain name or a numeric host. -/
def checkDomain (host : List Char) : Except Fault Unit :=
  match (Utf8.decode (percentDecode host)).toOption.bind fun s => Domain.normalize? s.toList with
  | none => .error .domainName
  | some labels =>
      let name := ['.'].intercalate labels
      if name.isEmpty then .error .emptyHost
      else if Ipv4.isClaimed name ∧ ¬ Ipv4.isHost name then .error .ipv4
      else .ok ()

/-- Checks the host of a known scheme. -/
def checkHost (host : List Char) : Except Fault Unit :=
  match host with
  | '[' :: rest => checkBracketed rest
  | host => checkDomain host

/-- Whether a character is forbidden in the hosts of other schemes. -/
def isForbiddenInHost (c : Char) : Bool :=
  c = '\x00' || c = ' ' || "#/:<>?@[\\]^|".toList.contains c

/-- Checks the host of another scheme. -/
def checkOtherHost (host : List Char) : Except Fault Unit :=
  match host with
  | '[' :: rest => checkBracketed rest
  | host => if host.any isForbiddenInHost then .error .domainCharacter else .ok ()

/-- The host at the head of a text, up to a colon outside brackets, with the text after it. -/
def spanHost (isKnown : Bool) : (inBrackets : Bool) → List Char → List Char × List Char
  | _, [] => ([], [])
  | inBrackets, c :: cs =>
      if (c = ':' && !inBrackets) || endsAuthority isKnown c then ([], c :: cs)
      else
        let (host, rest) := spanHost isKnown (if c = '[' then true else c ≠ ']' && inBrackets) cs
        (c :: host, rest)

/-- Checks the port at the head of a text, which ends with it. -/
def checkPort (cs : List Char) : Except Fault Unit :=
  let (digits, rest) := cs.span Char.isDigit
  if UInt16.size ≤ Natural.ofDigits digits then .error .port
  else match rest with
    | [] => .ok ()
    | c :: _ => if endsAuthority true c then .ok () else .error .port

/-! ### Authorities -/

/-- The text after the credentials, and whether there are any: they end at the last at sign. -/
def skipCredentials (isKnown : Bool) (cs : List Char) : Except Fault (Bool × List Char) :=
  let authority := cs.takeWhile fun c => !endsAuthority isKnown c
  let host := (authority.reverse.takeWhile (· ≠ '@')).reverse
  if host.length = authority.length then .ok (false, cs)
  else
    let credentials := authority.take (authority.length - host.length - 1)
    let rest := cs.drop (credentials.length + 1)
    if credentials.isEmpty ∧ rest.head?.any (endsAuthority isKnown) then .error .emptyHost
    else .ok (!credentials.isEmpty && credentials ≠ [':'], rest)

/-- Checks credentials, host and port. -/
def checkAuthority (isKnown : Bool) (cs : List Char) : Except Fault Unit := do
  let (hasCredentials, rest) ← skipCredentials isKnown cs
  let (host, rest) := spanHost isKnown false rest
  if isKnown ∧ host.isEmpty then throw .emptyHost
  if isKnown then checkHost host else checkOtherHost host
  match rest with
  | ':' :: port =>
      if host.isEmpty then throw .emptyHost
      checkPort port
  | _ => pure ()
  if host.isEmpty ∧ hasCredentials then throw .emptyHost

/-- Whether a text is a letter before a colon or a bar, which names a disk and not a host. -/
def isDrive : List Char → Bool
  | [letter, mark] => letter.isAlpha && (mark = ':' || mark = '|')
  | _ => false

/-- Checks the host of a file. -/
def checkFile (cs : List Char) : Except Fault Unit :=
  match cs with
  | a :: b :: rest =>
      if isSlash a ∧ isSlash b then
        let host := rest.takeWhile fun c => !endsAuthority true c
        if host.isEmpty ∨ isDrive host then .ok () else checkHost host
      else .ok ()
  | _ => .ok ()

/-! ### Whole texts -/

/-- A text without the controls and blanks at its ends, and without tabulators and line ends. -/
def clean (cs : List Char) : List Char :=
  let isOuter (c : Char) : Bool := c.toNat ≤ 0x20
  (((cs.dropWhile isOuter).reverse.dropWhile isOuter).reverse).filter fun c =>
    c ≠ '\t' && c ≠ '\n' && c ≠ '\r'

/-- Checks that a text is an absolute URL. -/
def check (text : String) : Except Fault Unit :=
  match scheme? (clean text.toList) with
  | none => .error .relative
  | some (.network, rest) => checkAuthority true (rest.dropWhile isSlash)
  | some (.file, rest) => checkFile rest
  | some (.other, '/' :: '/' :: rest) => checkAuthority false rest
  | some (.other, _) => .ok ()

end MintDrop.Url
