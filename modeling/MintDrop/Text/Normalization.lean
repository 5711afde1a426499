import MintDrop.Text.Composites

/-!
# Composed texts

A letter with marks can be written in several ways.  `Text.composed` is the one in which marks stand in the order
of their classes and as many of them as possible are part of a composite.
-/

namespace MintDrop.Text

/-- The canonical combining class of a character; letters have zero. -/
def combiningClass (c : Char) : Nat :=
  if c.toNat < 0x300 then 0
  else
    match combiningClasses.find? fun (_, high, _) => c.toNat ≤ high with
    | some (low, _, k) => if low ≤ c.toNat then k else 0
    | none => 0

/-! ### Syllables -/

/-- The first syllable that is composed of a consonant and a vowel. -/
def firstSyllable : Nat := 0xac00

/-- The number of syllables. -/
def syllableCount : Nat := 19 * 21 * 28

/-- The consonant, the vowel and the final consonant that a syllable is composed of. -/
def syllableParts? (c : Char) : Option (List Char) :=
  let n := c.toNat - firstSyllable
  if firstSyllable ≤ c.toNat ∧ n < syllableCount then
    let tail := n % 28
    some ([Char.ofNat (0x1100 + n / 588), Char.ofNat (0x1161 + n % 588 / 28)]
      ++ if tail = 0 then [] else [Char.ofNat (0x11a7 + tail)])
  else none

/-- The syllable of two characters: of a consonant and a vowel, or of a syllable and a final consonant. -/
def syllable? (a b : Char) : Option Char :=
  if 0x1100 ≤ a.toNat ∧ a.toNat < 0x1113 ∧ 0x1161 ≤ b.toNat ∧ b.toNat < 0x1176 then
    some (Char.ofNat (firstSyllable + (a.toNat - 0x1100) * 588 + (b.toNat - 0x1161) * 28))
  else if firstSyllable ≤ a.toNat ∧ a.toNat < firstSyllable + syllableCount
      ∧ (a.toNat - firstSyllable) % 28 = 0 ∧ 0x11a7 < b.toNat ∧ b.toNat < 0x11c3 then
    some (Char.ofNat (a.toNat + (b.toNat - 0x11a7)))
  else none

/-! ### Taking apart -/

/-- The most marks in one composite. -/
def maxMarks : Nat := 3

/-- A character without its marks, followed by them. -/
def decomposed : (marks : Nat) → Char → List Char
  | 0, c => [c]
  | marks + 1, c =>
      match composites.lookup c.toNat with
      | some (base, mark) => decomposed marks (Char.ofNat base) ++ [Char.ofNat mark]
      | none => (syllableParts? c).getD [c]

/-- A mark before a text whose marks are in order, put behind the marks of lower classes. -/
def placeMark (c : Char) : List Char → List Char
  | [] => [c]
  | d :: ds =>
      if combiningClass d ≠ 0 ∧ combiningClass d < combiningClass c then d :: placeMark c ds else c :: d :: ds

/-- A text with the marks behind each letter in the order of their classes. -/
def ordered (cs : List Char) : List Char := cs.foldr placeMark []

/-! ### Putting together -/

/-- The character that is composed of two characters. -/
def composite? (a b : Char) : Option Char :=
  match composites.find? fun (_, base, mark) => base = a.toNat && mark = b.toNat with
  | some (c, _) => some (Char.ofNat c)
  | none => syllable? a b

/-- The rest of a text after a letter and the marks that stay behind it, the last one first, of which the last
has the class `last`.  A character goes into the letter if no mark of its class or a higher one is between. -/
def composeAfter (letter : Char) (marks : List Char) (last : Nat) : List Char → List Char
  | [] => letter :: marks.reverse
  | c :: cs =>
      let k := combiningClass c
      match if marks.isEmpty ∨ last < k then composite? letter c else none with
      | some letter => composeAfter letter marks last cs
      | none =>
          if k = 0 then letter :: marks.reverse ++ composeAfter c [] 0 cs
          else composeAfter letter (c :: marks) k cs

/-- A text with composites in the place of letters with marks. -/
def compose : List Char → List Char
  | [] => []
  | c :: cs => if combiningClass c = 0 then composeAfter c [] 0 cs else c :: compose cs

/-- The composed form of a text. -/
def composed (cs : List Char) : List Char := compose (ordered (cs.flatMap (decomposed maxMarks)))

end MintDrop.Text
