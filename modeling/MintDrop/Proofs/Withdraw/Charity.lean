import Mathlib.Algebra.Ring.Nat
import Mathlib.Tactic.Common
import MintDrop.Withdraw.Sweep

/-!
# Donations

A share is made of a percentage just if it is in range, and has the hundredths that it is rounded to
(`ofPercent_eq_ok_iff`).  A donation is the share of the balance rounded down, which no cut to 64 bits changes
(`toNat_donation`), and is not more than the balance.  `Sweep.owed` is the same as a number without bound; rounding the
parts of a balance one by one never gives more than rounding the whole (`owed_add_le`, `sum_owed_le`).
-/

namespace MintDrop

/-! ### One balance -/

namespace CharityShare

/-- The percentages that make a share, and the share that they make. -/
theorem ofPercent_eq_ok_iff {address : Address} {percent : Float} {c : CharityShare} :
    ofPercent address percent = .ok c ↔ (0 ≤ percent ∧ percent ≤ 100) ∧ c.address = address ∧
      c.basisPoints.toNat = Double.round (percent * 100) := by
  obtain ⟨address', basisPoints, hle⟩ := c
  unfold ofPercent
  by_cases h : 0 ≤ percent ∧ percent ≤ 100
  · have hround : Double.round (percent * 100) < UInt16.size :=
      Nat.lt_of_le_of_lt (Double.round_mul_hundred_le h.1 h.2) (by decide)
    rw [dif_pos h, and_iff_right h]
    simp only [Except.ok.injEq, mk.injEq, UInt16.ofNatClamp_eq_ofNat _ hround, ← UInt16.toNat_inj,
      UInt16.toNat_ofNat_of_lt' hround]
    exact and_congr eq_comm eq_comm
  · rw [dif_neg h]
    exact iff_of_false nofun fun hin => h hin.1

theorem basisPoints_toNat_le (c : CharityShare) : c.basisPoints.toNat ≤ 10000 :=
  UInt16.le_iff_toNat_le.1 c.basisPoints_le

theorem share_le (c : CharityShare) (lamports : ℕ) : lamports * c.basisPoints.toNat / 10000 ≤ lamports := by
  apply Nat.div_le_of_le_mul
  rw [Nat.mul_comm 10000]
  exact Nat.mul_le_mul_left lamports c.basisPoints_toNat_le

theorem toNat_donation (c : CharityShare) (lamports : UInt64) :
    (c.donation lamports).toNat = lamports.toNat * c.basisPoints.toNat / 10000 :=
  UInt64.toNat_ofNat_of_lt' (Nat.lt_of_le_of_lt (c.share_le _) lamports.toNat_lt)

theorem donation_le (c : CharityShare) (lamports : UInt64) : c.donation lamports ≤ lamports := by
  rw [UInt64.le_iff_toNat_le, toNat_donation]
  exact c.share_le _

/-- A product of twice the width has room for a balance times its share. -/
theorem product_lt (c : CharityShare) (lamports : UInt64) : lamports.toNat * c.basisPoints.toNat < 2 ^ 128 := by
  calc lamports.toNat * c.basisPoints.toNat
      ≤ lamports.toNat * 10000 := Nat.mul_le_mul_left _ c.basisPoints_toNat_le
    _ < 2 ^ 64 * 10000 := Nat.mul_lt_mul_of_pos_right lamports.toNat_lt (by decide)
    _ < 2 ^ 128 := by decide

theorem share_add_le (c : CharityShare) (m n : ℕ) :
    m * c.basisPoints.toNat / 10000 + n * c.basisPoints.toNat / 10000 ≤ (m + n) * c.basisPoints.toNat / 10000 := by
  rw [Nat.add_mul]
  omega

theorem donation_add_le (c : CharityShare) {m n : UInt64} (h : m.toNat + n.toNat < UInt64.size) :
    (c.donation m).toNat + (c.donation n).toNat ≤ (c.donation (m + n)).toNat := by
  rw [toNat_donation, toNat_donation, toNat_donation, UInt64.toNat_add, Nat.mod_eq_of_lt h]
  exact c.share_add_le _ _

end CharityShare

/-! ### What balances owe -/

namespace Sweep

/-- What a balance owes to charity. -/
def owed (charity : Option CharityShare) (lamports : ℕ) : ℕ :=
  charity.elim 0 fun c => lamports * c.basisPoints.toNat / 10000

variable {charity : Option CharityShare}

theorem toNat_donation (lamports : UInt64) : (donation charity lamports).toNat = owed charity lamports.toNat := by
  cases charity with
  | none => rfl
  | some c => exact c.toNat_donation lamports

theorem donation_eq_ofNat (lamports : UInt64) :
    donation charity lamports = UInt64.ofNat (owed charity lamports.toNat) := by
  rw [← toNat_donation, UInt64.ofNat_toNat]

theorem owed_zero : owed charity 0 = 0 := by
  cases charity <;> simp [owed]

theorem owed_le (lamports : ℕ) : owed charity lamports ≤ lamports := by
  cases charity with
  | none => exact Nat.zero_le _
  | some c => exact c.share_le lamports

theorem owed_add_le (m n : ℕ) : owed charity m + owed charity n ≤ owed charity (m + n) := by
  cases charity with
  | none => exact Nat.le_refl _
  | some c => exact c.share_add_le m n

theorem sum_owed_le (balances : List ℕ) : (balances.map (owed charity)).sum ≤ owed charity balances.sum := by
  induction balances with
  | nil => exact Nat.zero_le _
  | cons m balances ih =>
      rw [List.map_cons, List.sum_cons, List.sum_cons]
      calc owed charity m + (balances.map (owed charity)).sum
          ≤ owed charity m + owed charity balances.sum := Nat.add_le_add_left ih _
        _ ≤ owed charity (m + balances.sum) := owed_add_le _ _

/-! ### Sums of words -/

theorem foldl_add_eq (amounts : List UInt64) (start : UInt64) :
    amounts.foldl (· + ·) start = start + UInt64.ofNat (amounts.map (·.toNat)).sum := by
  induction amounts generalizing start with
  | nil => exact (UInt64.add_zero start).symm
  | cons amount amounts ih =>
      rw [List.foldl_cons, ih, List.map_cons, List.sum_cons, UInt64.ofNat_add, UInt64.ofNat_toNat, UInt64.add_assoc]

/-- The sum of some amounts is cut to 64 bits. -/
theorem sum_eq_ofNat (amounts : List UInt64) : sum amounts = UInt64.ofNat (amounts.map (·.toNat)).sum := by
  rw [sum, foldl_add_eq, UInt64.zero_add]

end Sweep

end MintDrop
