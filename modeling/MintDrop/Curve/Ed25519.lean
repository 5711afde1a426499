import MintDrop.Digest.Sha2

/-!
# The curve of Ed25519

Points of the twisted Edwards curve `-x² + y² = 1 + d x² y²` over the field of `2 ^ 255 - 19` elements.
`Ed25519.publicKey` is the compressed multiple of the base point that belongs to a secret seed, and
`Ed25519.isPoint` decides whether 32 bytes are a compressed point.
-/

namespace MintDrop.Ed25519

/-- The number of elements of the field. -/
def order : Nat := Nat.pow 2 255 - 19

/-- A power in the field. -/
def power (b e : Nat) : Nat :=
  if _h : e = 0 then 1
  else
    let half := power (b * b % order) (e / 2)
    if e % 2 = 1 then b * half % order else half
termination_by e
decreasing_by omega

/-- The inverse of a nonzero element. -/
def inverse (x : Nat) : Nat := power x (order - 2)

/-- The difference in the field of two elements. -/
def sub (x y : Nat) : Nat := (x + (order - y % order)) % order

/-- The coefficient `d = -121665 / 121666` of the curve. -/
def coefficient : Nat := 37095705934669439343138083508754565189542113879843219016388785533085940283555

/-- A point in extended coordinates: `x = X / Z`, `y = Y / Z` and `x y = T / Z`. -/
structure Point where
  X : Nat
  Y : Nat
  Z : Nat
  T : Nat

/-- The neutral point. -/
def Point.zero : Point := ⟨0, 1, 1, 0⟩

/-- The sum of two points. -/
def Point.add (p q : Point) : Point :=
  let a := sub p.Y p.X * sub q.Y q.X % order
  let b := (p.Y + p.X) * (q.Y + q.X) % order
  let c := 2 * p.T * q.T * coefficient % order
  let d := 2 * p.Z * q.Z % order
  let e := sub b a
  let f := sub d c
  let g := (d + c) % order
  let h := (b + a) % order
  ⟨e * f % order, g * h % order, f * g % order, e * h % order⟩

/-- The multiple of a point, from the lowest of `bits` bits of the factor on. -/
def Point.multiple (p : Point) : (bits : Nat) → (factor : Nat) → Point
  | 0, _ => .zero
  | bits + 1, factor =>
      let rest := (p.add p).multiple bits (factor / 2)
      if factor % 2 = 1 then p.add rest else rest

/-- The point of order a prime near `2 ^ 252` that all keys are multiples of; its `y` is `4 / 5`. -/
def Point.base : Point :=
  let x := 15112221349535400772501151409588531511454012693041857206046113283949847762202
  let y := 46316835694926478169428394003475163141307993866256225615783033603165251855960
  ⟨x, y, 1, x * y % order⟩

/-- The 32 bytes of a point: `y`, with the parity of `x` in the highest bit. -/
def Point.compress (p : Point) : Bytes :=
  let z := inverse p.Z
  let x := p.X * z % order
  let y := p.Y * z % order
  Bytes.ofNatLE 32 (y + x % 2 * Nat.pow 2 255)

theorem Point.length_compress (p : Point) : p.compress.length = 32 := Bytes.length_ofNatLE _ _

/-- The factor that a secret seed stands for: half of its hash, with the lowest three bits cleared, the
highest cleared and the next one set. -/
def secretFactor (seed : Bytes) : Nat :=
  let n := Bytes.toNatLE ((Sha2.sha512 seed).take 32)
  Nat.pow 2 254 + n % Nat.pow 2 254 / 8 * 8

/-- The public key of a secret seed. -/
def publicKey (seed : Bytes) : Bytes := (Point.base.multiple 255 (secretFactor seed)).compress

theorem length_publicKey (seed : Bytes) : (publicKey seed).length = 32 := Point.length_compress _

/-- Whether an element of the field is a square. -/
def isSquare (x : Nat) : Bool := power (x % order) ((order - 1) / 2) ≤ 1

/-- Whether 32 bytes are a compressed point: `x² = (y² - 1) / (d y² + 1)` has a solution. -/
def isPoint (bs : Bytes) : Bool :=
  let y := Bytes.toNatLE bs % Nat.pow 2 255
  let u := sub (y * y) 1
  let v := (coefficient * (y * y) + 1) % order
  isSquare (u * v)

end MintDrop.Ed25519
