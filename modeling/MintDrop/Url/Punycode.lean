/-!
# Labels with an ASCII form

A label with other than ASCII characters can be written as ASCII: first its ASCII characters, then for each
other one, in ascending order, how far it is from the one before.  `Punycode.decode?` reads that form.
-/

namespace MintDrop.Url.Punycode

/-- The value of a digit in base 36. -/
def digitValue? (c : Char) : Option Nat :=
  if 'a' ≤ c ∧ c ≤ 'z' then some (c.toNat - 'a'.toNat)
  else if 'A' ≤ c ∧ c ≤ 'Z' then some (c.toNat - 'A'.toNat)
  else if '0' ≤ c ∧ c ≤ '9' then some (c.toNat - '0'.toNat + 26)
  else none

/-- The least digit after which a number of the digit position `k` goes on. -/
def threshold (k bias : Nat) : Nat := if k ≤ bias then 1 else min (k - bias) 26

/-- A distance divided by 35 until it is at most 455, with 36 for each division. -/
def damp (delta k : Nat) : Nat × Nat := if _h : 455 < delta then damp (delta / 35) (k + 36) else (delta, k)
termination_by delta
decreasing_by omega

/-- The bias after a distance, for a label that has `size` characters now. -/
def adapt (delta size : Nat) (isFirst : Bool) : Nat :=
  let delta := if isFirst then delta / 700 else delta / 2
  let (delta, k) := damp (delta + delta / size) 0
  k + 36 * delta / (delta + 38)

/-- The bound of the numbers in a form and of the weights of their digits. -/
def limit : Nat := Nat.pow 2 32

/-- A number of several digits at the head of a text, with the text after it. -/
def number? (bias : Nat) : List Char → (k weight sum : Nat) → Option (Nat × List Char)
  | [], _, _, _ => none
  | c :: cs, k, weight, sum => do
      let digit ← digitValue? c
      let sum := sum + digit * weight
      let t := threshold k bias
      let next := weight * (36 - t)
      if limit ≤ sum then none
      else if digit < t then pure (sum, cs)
      else if limit ≤ next then none
      else number? bias cs (k + 36) next sum

/-- The characters of a label with those that the rest of its form still inserts: `code` is the last one that
was inserted and `place` the place after it. -/
def insertAll (isFirst : Bool) : (steps : Nat) → (label : List Char) → (code place bias : Nat) →
    List Char → Option (List Char)
  | _, label, _, _, _, [] => some label
  | 0, _, _, _, _, _ :: _ => none
  | steps + 1, label, code, place, bias, cs => do
      let (delta, rest) ← number? bias cs 36 1 0
      let size := label.length + 1
      let code := code + (place + delta) / size
      let place := (place + delta) % size
      if code.isValidChar then
        insertAll false steps (label.take place ++ Char.ofNat code :: label.drop place) code (place + 1)
          (adapt delta size isFirst) rest
      else none

/-- The label of an ASCII form: the part before the last hyphen, with what the part after it inserts.  A hyphen
with nothing before it is no digit. -/
def decode? (cs : List Char) : Option (List Char) :=
  let tail := (cs.reverse.takeWhile (· ≠ '-')).reverse
  let label := cs.take (cs.length - tail.length - 1)
  if label.isEmpty ∧ tail.length < cs.length then none
  else insertAll true tail.length label 128 0 72 tail

end MintDrop.Url.Punycode
