import MintDrop.Address
import MintDrop.Number.Rounding

/-!
# Charity shares

A `CharityShare` is a share of each withdrawn balance that goes to another account, in hundredths of a per
cent.  A donation is rounded down and never exceeds the balance.
-/

namespace MintDrop

/-- A share of the balances for an account. -/
structure CharityShare where
  address : Address
  /-- The share in hundredths of a per cent. -/
  basisPoints : UInt16
  basisPoints_le : basisPoints ≤ 10000
  deriving DecidableEq

namespace CharityShare

/-- A percentage outside the range from 0 to 100. -/
structure InvalidPercent where
  percent : Float

/-- The wording of the error. -/
def InvalidPercent.message (e : InvalidPercent) : String :=
  "charity percentage must be within [0, 100], got " ++ Double.plain e.percent

/-- A percentage up to a hundred is one in hundredths too. -/
theorem basisPoints_le_of_percent {percent : Float} (h : 0 ≤ percent ∧ percent ≤ 100) :
    UInt16.ofNatClamp (Double.round (percent * 100)) ≤ 10000 := by
  have hround := Double.round_mul_hundred_le h.1 h.2
  have hsize : Double.round (percent * 100) < UInt16.size := Nat.lt_of_le_of_lt hround (by decide)
  rw [UInt16.ofNatClamp_eq_ofNat _ hsize, UInt16.le_iff_toNat_le, UInt16.toNat_ofNat_of_lt' hsize]
  exact hround

/-- The share of a percentage, rounded to two decimals. -/
def ofPercent (address : Address) (percent : Float) : Except InvalidPercent CharityShare :=
  if h : 0 ≤ percent ∧ percent ≤ 100 then
    .ok ⟨address, UInt16.ofNatClamp (Double.round (percent * 100)), basisPoints_le_of_percent h⟩
  else .error ⟨percent⟩

/-- The part of a balance that is donated. -/
def donation (c : CharityShare) (lamports : UInt64) : UInt64 :=
  UInt64.ofNat (lamports.toNat * c.basisPoints.toNat / 10000)

end CharityShare

end MintDrop
