import MintDrop.Text.Joining
import MintDrop.Text.Normalization
import MintDrop.Url.Characters
import MintDrop.Url.Direction
import MintDrop.Url.Ip
import MintDrop.Url.Punycode

/-!
# Domain names

`Domain.normalize?` is the form of a domain name in which it is looked up, label by label, or nothing if the
name has characters or labels that no domain may have.
-/

namespace MintDrop.Url.Domain

/-- Whether an ASCII character is forbidden: white space, controls and delimiters. -/
def isForbidden (c : Char) : Bool :=
  c.toNat ≤ 0x20 || c.toNat = 0x7f || "%#/:<>?@[\\]^|".toList.contains c

/-! ### Joiners -/

/-- Whether the next character that is not transparent has a property. -/
def reaches (p : Char → Bool) : List Char → Bool
  | [] => false
  | c :: cs => p c || (Text.isTransparent c && reaches p cs)

/-- Whether a character suppresses the vowel of the letter before it. -/
def isVirama (c : Char) : Bool := Text.combiningClass c = 9

/-- Whether the joiners of a label follow a virama, or keep letters apart that would be joined; `before` is what
precedes them, the last character first. -/
def joinersFit : (before : List Char) → List Char → Bool
  | _, [] => true
  | before, c :: cs =>
      (!isJoiner c || before.head?.any isVirama
          || (c = '\u200c' && reaches Text.joinsNext before && reaches Text.joinsPrevious cs))
        && joinersFit (c :: before) cs

/-- Whether a label with other than ASCII characters is one. -/
def isLabel (label : List Char) : Bool := !(label.head?.any Text.isMark) && joinersFit [] label

/-! ### Labels -/

/-- The most characters of the ASCII form of a label. -/
def maxForm : Nat := 2000

/-- The most characters of a label that is not written in its ASCII form. -/
def maxLabel : Nat := 1000

/-- Whether a character stays as it is when it is normalized. -/
def isStable (c : Char) : Bool := mapChar? c = some [c] && !isForbidden c

/-- The label of an ASCII form, unless it would have been written in another way. -/
def decode? (form : List Char) : Option (List Char) :=
  if form.isEmpty ∨ form.getLast? = some '-' ∨ maxForm < form.length ∨ form.any (0x80 ≤ ·.toNat) then none
  else do
    let label ← Punycode.decode? form
    if label.all isStable ∧ Text.composed label = label ∧ isLabel label then pure label else none

/-- The label that a label stands for, if it is an ASCII form, or itself. -/
def readLabel? (label : List Char) : Option (List Char) :=
  match label with
  | 'x' :: 'n' :: '-' :: '-' :: form => decode? form
  | label => if isLabel label then some label else none

/-- The labels of a part between full stops.  Characters can stand for full stops, so that there may be several. -/
def readPart? (part : List Char) : Option (List (List Char)) := do
  let isAscii := part.all (·.toNat < 0x80)
  let mapped ← part.mapM mapChar?
  let part := Text.composed mapped.flatten
  if part.any isForbidden then none
  let labels ← (pieces '.' part).mapM readLabel?
  if !isAscii ∧ labels.any (fun label => maxLabel < label.length && label.any (0x80 ≤ ·.toNat)) then none
  else pure labels

/-! ### Mixed directions -/

/-- Whether a label may stand in a name with letters that are written from right to left. -/
def keepsDirection : List Char → Bool
  | [] => true
  | first :: rest =>
      let core := ((rest.map direction).reverse.dropWhile (· = .mark)).reverse
      match direction first with
      | .leftToRight =>
          core.getLast?.all (fun d => d = .leftToRight || d = .europeanDigit)
            && core.all fun d => d ≠ .rightToLeft && d ≠ .arabicDigit
      | .rightToLeft =>
          core.getLast?.all (fun d => d = .rightToLeft || d = .europeanDigit || d = .arabicDigit)
            && !core.contains .leftToRight
            && !(core.contains .europeanDigit && core.contains .arabicDigit)
      | _ => false

/-- Whether the labels of a name do not confuse the directions of writing. -/
def keepDirections (labels : List (List Char)) : Bool :=
  let isMixed := labels.any fun label => label.any fun c =>
    direction c = .rightToLeft || direction c = .arabicDigit
  !isMixed || labels.all keepsDirection

/-! ### Names -/

/-- The labels of a name in the form in which it is looked up. -/
def normalize? (name : List Char) : Option (List (List Char)) := do
  let labels ← (pieces '.' name).mapM readPart?
  if keepDirections labels.flatten then pure labels.flatten else none

end MintDrop.Url.Domain
