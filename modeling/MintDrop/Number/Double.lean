import MintDrop.Number.Natural

/-!
# Decimal text of doubles

A finite positive double is `m · 2 ^ q`.  `Double.shortest` finds the shortest decimal number that lies
nearer to it than to any other double, and `Double.plain` and `Double.scientific` are the two ways in which
the program writes it.  `Double.ofDecimal` rounds a decimal number once and `Double.ofText?` reads one.
-/

namespace MintDrop.Double

/-! ### Significand and exponent -/

/-- The natural numbers `m` and `q + 1074` with the absolute value `m · 2 ^ q` of a finite double. -/
def parts (x : Float) : Nat × Nat :=
  let bits := x.toBits.toNat
  let fraction := bits % Nat.pow 2 52
  let exponent := bits / Nat.pow 2 52 % Nat.pow 2 11
  if exponent = 0 then (fraction, 0) else (fraction + Nat.pow 2 52, exponent - 1)

/-- Whether the sign bit is set. -/
def isNegative (x : Float) : Bool := x.toBits.toNat / Nat.pow 2 63 = 1

/-! ### The shortest decimal -/

/-- Which of two decimals that are equally near to a double is taken. -/
inductive Tie
  /-- The one that ends in an even digit. -/
  | even
  /-- The larger one. -/
  | up

/-- Whether a tie between `c` and `c + 1` goes to `c + 1`. -/
def Tie.isUp (tie : Tie) (c : Nat) : Bool :=
  match tie with
  | .even => c % 2 = 1
  | .up => true

/-- The integer quotient and remainder of `x · 2 ^ s / 10 ^ e`, with the divisor. -/
def onGrid (x : Nat) (s e : Int) : Nat × Nat × Nat :=
  let num := x * Nat.pow 2 s.toNat * Nat.pow 10 (-e).toNat
  let den := Nat.pow 2 (-s).toNat * Nat.pow 10 e.toNat
  (num / den, num % den, den)

/-- The digits of a multiple of `10 ^ e` in the interval of the reals that round to `m · 2 ^ q`, the nearest
one if there are two; `low` quarters below the double the interval begins. -/
def onGrid? (tie : Tie) (m : Nat) (q : Int) (low : Nat) (e : Int) : Option Nat :=
  let (c, r, den) := onGrid (4 * m) (q - 2) e
  let (l, lr, _) := onGrid (4 * m - low) (q - 2) e
  let (h, hr, _) := onGrid (4 * m + 2) (q - 2) e
  let closed := m % 2 = 0
  let below := 0 < c ∧ (l < c ∨ (l = c ∧ lr = 0 ∧ closed))
  let above := c + 1 < h ∨ (c + 1 = h ∧ (0 < hr ∨ closed))
  if r = 0 then some c
  else if below ∧ above then some (if den < 2 * r ∨ (2 * r = den ∧ tie.isUp c) then c + 1 else c)
  else if below then some c
  else if above then some (c + 1)
  else none

/-- The number of decimal digits before the point of `m · 2 ^ q`, zero or less for fractions. -/
def magnitude (m : Nat) (q : Int) : Int :=
  let estimate := ((Nat.log2 m : Int) + q) * 30103 / 100000
  let reaches (k : Int) : Bool := 0 < (onGrid m q k).1
  if reaches (estimate + 1) then estimate + 2
  else if reaches estimate then estimate + 1
  else estimate

/-- The first grid, from the coarsest on, that has a point in the interval. -/
def shortestFrom (tie : Tie) (m : Nat) (q : Int) (low : Nat) (e : Int) : (grids : Nat) → Nat × Int
  | 0 => ((onGrid m q e).1, e)
  | grids + 1 =>
      match onGrid? tie m q low e with
      | some c => (c, e)
      | none => shortestFrom tie m q low (e - 1) grids

/-- The digits `c` and the exponent `e` of the shortest decimal `c · 10 ^ e` of `m · 2 ^ q`. -/
def shortest (tie : Tie) (m biased : Nat) : Nat × Int :=
  let q := (biased : Int) - 1074
  let low := if m = Nat.pow 2 52 ∧ 0 < biased then 1 else 2
  shortestFrom tie m q low (magnitude m q - 1) 17

/-- A number without the zeros at its end, which go into the exponent. -/
def stripZeros : (fuel : Nat) → Nat → Int → Nat × Int
  | 0, c, e => (c, e)
  | fuel + 1, c, e => if c ≠ 0 ∧ c % 10 = 0 then stripZeros fuel (c / 10) (e + 1) else (c, e)

/-- The decimal digits and the number of them before the point, for a finite double that is not zero. -/
def digits (tie : Tie) (x : Float) : List Char × Int :=
  let (m, biased) := parts x
  let (c, e) := shortest tie m biased
  let (c, e) := stripZeros 20 c e
  let ds := Nat.toDigits 10 c
  (ds, e + ds.length)

/-! ### Written forms -/

/-- Digits with the point after the first `point` of them and zeros where digits are missing. -/
def positional (ds : List Char) (point : Int) : List Char × List Char :=
  if point ≤ 0 then (['0'], List.replicate (-point).toNat '0' ++ ds)
  else
    let k := point.toNat
    (ds.take k ++ List.replicate (k - ds.length) '0', ds.drop k)

/-- Positional notation for all sizes, without a point on whole numbers; ties go up. -/
def plain (x : Float) : String :=
  if x.isNaN then "NaN"
  else
    let sign := if isNegative x then "-" else ""
    if x.isInf then sign ++ "inf"
    else if x == 0 then sign ++ "0"
    else
      let (ds, point) := digits .up x
      let (whole, fraction) := positional ds point
      let tail := if fraction.isEmpty then [] else '.' :: fraction
      sign ++ String.ofList (whole ++ tail)

/-- Positional notation with at least one decimal from `0.00001` to below `10 ^ 16`, and an exponent with its
sign outside that range; ties go to an even digit. -/
def scientific (x : Float) : String :=
  let sign := if isNegative x then "-" else ""
  if x == 0 then sign ++ "0.0"
  else
    let (ds, point) := digits .even x
    if -5 < point ∧ point ≤ 16 then
      let (whole, fraction) := positional ds point
      sign ++ String.ofList (whole ++ '.' :: if fraction.isEmpty then ['0'] else fraction)
    else
      let exponent := point - 1
      let tail := match ds.drop 1 with
        | [] => []
        | rest => '.' :: rest
      let eds := Nat.toDigits 10 exponent.natAbs
      sign ++ String.ofList (ds.take 1 ++ tail ++ ['e', if exponent < 0 then '-' else '+'] ++ eds)

/-! ### Reading -/

/-- The double nearest to `n · 10 ^ e`; beyond the doubles that is zero or infinity. -/
def ofDecimal (n : Nat) (e : Int) : Float :=
  let size : Int := (Nat.toDigits 10 n).length + e
  if n = 0 ∨ size < -400 then 0
  else if 400 < size then 1 / 0
  else if e < 0 then Float.ofScientific n true (-e).toNat
  else Float.ofScientific n false e.toNat

/-- The exponent that a text spells: digits behind `e` and an optional sign. -/
def exponent? : List Char → Option Int
  | [] => some 0
  | c :: rest =>
      if c ≠ 'e' ∧ c ≠ 'E' then none
      else match rest with
        | '-' :: ds => if ds.head? = some '+' then none else (Natural.ofText? ds).map fun n => -n
        | ds => (Natural.ofText? ds).map fun n => n

/-- The double of a text without a sign: `inf`, `infinity` or `nan` in any case, or digits with an optional
point among, before or after them and an optional exponent. -/
def unsigned? (cs : List Char) : Option Float :=
  let word := String.ofList (cs.map Char.toLower)
  if word = "inf" ∨ word = "infinity" then some (1 / 0)
  else if word = "nan" then some (0 / 0)
  else
    let (whole, rest) := cs.span Char.isDigit
    let (fraction, rest) := match rest with
      | '.' :: rest => rest.span Char.isDigit
      | rest => ([], rest)
    if whole.isEmpty ∧ fraction.isEmpty then none
    else (exponent? rest).map fun e =>
      ofDecimal (Natural.ofDigits (whole ++ fraction)) (e - fraction.length)

/-- The double that a text spells. -/
def ofText? : List Char → Option Float
  | '-' :: rest => (unsigned? rest).map fun x => -x
  | '+' :: rest => unsigned? rest
  | cs => unsigned? cs

/-- Ten to a power, by squaring: the factors are the bits of the exponent, the lowest first. -/
def tenPower (base result : Float) (e : Nat) : Float :=
  let result := if e % 2 = 1 then result * base else result
  if _h : e / 2 = 0 then result else tenPower (base * base) result (e / 2)
termination_by e
decreasing_by omega

end MintDrop.Double
