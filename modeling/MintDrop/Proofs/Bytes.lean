import Mathlib.Algebra.Group.Nat.Defs
import MintDrop.Bytes

/-!
# Little-endian numbers

The width of a little-endian number decides which numbers can be written (`toNatLE_ofNatLE`, `toNatLE_lt`).
-/

namespace MintDrop.Bytes

theorem toNatLE_ofNatLE (width n : Nat) : toNatLE (ofNatLE width n) = n % 256 ^ width := by
  induction width generalizing n with
  | zero => simp [ofNatLE, toNatLE, Nat.mod_one]
  | succ width ih =>
      have hb : (UInt8.ofNat n).toNat = n % 256 := UInt8.toNat_ofNat'
      rw [ofNatLE, toNatLE, ih, hb, Nat.pow_succ, Nat.mul_comm _ 256, Nat.mod_mul]

theorem toNatLE_lt (bs : Bytes) : toNatLE bs < 256 ^ bs.length := by
  induction bs with
  | nil => exact Nat.one_pos
  | cons b bs ih =>
      have hb : b.toNat < 256 := b.toNat_lt
      rw [toNatLE, List.length_cons, Nat.pow_succ]
      omega

end MintDrop.Bytes
