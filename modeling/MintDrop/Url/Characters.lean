import MintDrop.Text.Ranges
import MintDrop.Url.Mapping

/-!
# Characters of domain names

`Url.mapChar?` says what becomes of a character when a domain name is normalized: some are dropped, some are
refused, some stand for other characters, and the others stay, also those whose code points are not assigned
yet.
-/

namespace MintDrop.Url

/-- The code points that are dropped. -/
def ignoredRanges : List (Nat × Nat) :=
  [(0xad, 0xad), (0x34f, 0x34f), (0x115f, 0x1160), (0x17b4, 0x17b5), (0x180b, 0x180f), (0x200b, 0x200b),
   (0x2060, 0x2064), (0x206a, 0x206f), (0x3164, 0x3164), (0xfe00, 0xfe0f), (0xfeff, 0xfeff),
   (0xffa0, 0xffa0), (0x1bca0, 0x1bca3), (0x1d173, 0x1d17a), (0xe0100, 0xe01ef)]

/-- The code points from 128 on that are refused: controls, white space, what stands for white space or for
several dots, and code points that are reserved or for private use. -/
def refusedRanges : List (Nat × Nat) :=
  [(0x80, 0xa0), (0xa8, 0xa8), (0xaf, 0xaf), (0xb4, 0xb4), (0xb8, 0xb8), (0x2d8, 0x2dd), (0x378, 0x37a),
   (0x380, 0x385), (0x38b, 0x38b), (0x38d, 0x38d), (0x3a2, 0x3a2), (0x600, 0x605), (0x61c, 0x61c),
   (0x6dd, 0x6dd), (0x70f, 0x70f), (0x890, 0x891), (0x8e2, 0x8e2), (0x1680, 0x1680), (0x1fbd, 0x1fbd),
   (0x1fbf, 0x1fc1), (0x1fcd, 0x1fcf), (0x1fdd, 0x1fdf), (0x1fed, 0x1fee), (0x1ffd, 0x1ffe),
   (0x2000, 0x200a), (0x200e, 0x200f), (0x2017, 0x2017), (0x2024, 0x2026), (0x2028, 0x202f),
   (0x203e, 0x203e), (0x205f, 0x205f), (0x2065, 0x2069), (0x2488, 0x249b), (0x2ff0, 0x3000),
   (0x309b, 0x309c), (0x31ef, 0x31ef), (0x33c2, 0x33c2), (0x33c7, 0x33c7), (0x33d8, 0x33d8),
   (0xe000, 0xf8ff), (0xfc5e, 0xfc63), (0xfdd0, 0xfdef), (0xfdfa, 0xfdfb), (0xfe12, 0xfe12),
   (0xfe19, 0xfe19), (0xfe30, 0xfe30), (0xfe49, 0xfe4c), (0xfe52, 0xfe52), (0xfe70, 0xfe70),
   (0xfe72, 0xfe72), (0xfe74, 0xfe74), (0xfe76, 0xfe76), (0xfe78, 0xfe78), (0xfe7a, 0xfe7a),
   (0xfe7c, 0xfe7c), (0xfe7e, 0xfe7e), (0xffe3, 0xffe3), (0xfff0, 0xffff), (0x110bd, 0x110bd),
   (0x110cd, 0x110cd), (0x13430, 0x1343f), (0x1f100, 0x1f100), (0x1fffe, 0x1ffff), (0x2fffe, 0x2ffff),
   (0x3fffe, 0xe00ff), (0xe01f0, 0x10ffff)]

/-- Whether a character joins its neighbours or keeps them apart. -/
def isJoiner (c : Char) : Bool := c = '\u200c' || c = '\u200d'

/-- The characters that a character from 128 on stands for. -/
def form? (c : Char) : Option (List Char) := do
  let (start, words) ← (mappings.takeWhile (·.1 ≤ c.toNat)).getLast?
  let word ← (words.splitOn " ")[c.toNat - start]?
  pure word.toList

/-- What a character becomes, unless it is refused. -/
def mapChar? (c : Char) : Option (List Char) :=
  if c.toNat < 0x80 then some [c.toLower]
  else if Text.within ignoredRanges c then some []
  else if Text.within refusedRanges c then none
  else some ((form? c).getD [c])

end MintDrop.Url
