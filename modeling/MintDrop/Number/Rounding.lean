import MintDrop.Number.Double

/-!
# Rounding doubles to whole numbers

`Double.round` is the whole number nearest to a double.  The product of two doubles is itself rounded, to a significand
of 53 bits; as `10000` is a double, this never leads from below `10000` to above (`below_roundWithAccuracy`), so that a
hundred times a number up to `100` is rounded to `10000` at most (`round_mul_hundred_le`).
-/

namespace MintDrop.Double

/-- The whole number nearest to a double, of two the larger one.  It is zero for a negative double and for what is no
number, and greater than all words for infinity. -/
def round (x : Float) : Nat :=
  if x.isNaN || isNegative x then 0
  else
    let (m, biased) := parts x
    if 1074 ≤ biased then m * Nat.pow 2 (biased - 1074)
    else (2 * m + Nat.pow 2 (1074 - biased)) / Nat.pow 2 (1074 - biased + 1)

open Float.Model UnpackedFloat

theorem two_pow_add (a b : Nat) : Nat.pow 2 (a + b) = Nat.pow 2 a * Nat.pow 2 b := Nat.pow_add 2 a b

theorem two_pow_pos (k : Nat) : 0 < Nat.pow 2 k := Nat.two_pow_pos k

/-! ### Significands -/

/-- A significand that is shifted to the right gets no greater, and less if bits are lost. -/
theorem shiftRight_le (m s : Nat) :
    let em := (⟨m, false, false⟩ : ExtendedMantissa) >>> s
    em.mantissa * Nat.pow 2 s ≤ m ∧ ((em.roundBit || em.stickyBit) = true → em.mantissa * Nat.pow 2 s < m) := by
  induction s with
  | zero => exact ⟨Nat.le_of_eq (Nat.mul_one m), nofun⟩
  | succ s ih =>
      let em := (⟨m, false, false⟩ : ExtendedMantissa) >>> s
      obtain ⟨hle, hlt⟩ : em.mantissa * Nat.pow 2 s ≤ m ∧
        ((em.roundBit || em.stickyBit) = true → em.mantissa * Nat.pow 2 s < m) := ih
      have hsplit : em.mantissa * Nat.pow 2 s =
          em.mantissa / 2 * (Nat.pow 2 s * 2) + em.mantissa % 2 * Nat.pow 2 s := by
        rw [Nat.mul_comm (Nat.pow 2 s) 2, ← Nat.mul_assoc, ← Nat.add_mul, Nat.div_add_mod']
      have hpos := two_pow_pos s
      show em.mantissa / 2 * (Nat.pow 2 s * 2) ≤ m ∧
        ((em.mantissa % 2 != 0 || (em.roundBit || em.stickyBit)) = true → em.mantissa / 2 * (Nat.pow 2 s * 2) < m)
      refine ⟨by omega, fun hlost => ?_⟩
      rcases Nat.mod_two_eq_zero_or_one em.mantissa with heven | hodd
      · rw [heven] at hlost
        have := hlt hlost
        omega
      · rw [hodd] at hsplit
        omega

/-- A significand from which bits were lost is rounded to the next one at most. -/
theorem roundedMantissa_le {em : ExtendedMantissa} {limit : Nat} (hle : em.mantissa ≤ limit)
    (hlt : (em.roundBit || em.stickyBit) = true → em.mantissa < limit) : em.roundedMantissa ≤ limit := by
  obtain ⟨m, round, sticky⟩ := em
  cases round <;> cases sticky
  · exact hle
  · exact hle
  · have hless : m < limit := hlt rfl
    show m + m % 2 ≤ limit
    omega
  · exact hlt rfl

/-! ### Numbers up to ten thousand -/

/-- Whether `m · 2 ^ e` is at most `10000`, with an exponent as low as it is in a significand of 53 bits. -/
def Below (m : Nat) (e : Int) : Prop := e ≤ -39 ∧ m ≤ 10000 * Nat.pow 2 (-e).toNat

theorem log2_le_of_below {m : Nat} {e : Int} (h : Below m e) : m.log2 + e ≤ 13 := by
  obtain ⟨he, hm⟩ := h
  by_cases hzero : m = 0
  · rw [hzero, Nat.log2_zero]
    omega
  · have hpos := two_pow_pos (-e).toNat
    have hpow : Nat.pow 2 (14 + (-e).toNat) = 16384 * Nat.pow 2 (-e).toNat := two_pow_add 14 _
    have hlog : m.log2 < 14 + (-e).toNat := (Nat.log2_lt hzero).2 (show m < Nat.pow 2 _ by omega)
    omega

theorem targetExponent_le_of_below {m : Nat} {e : Int} (h : Below m e) :
    Format.binary64.targetExponent (totalExponent m e) ≤ -39 := by
  have hlog := log2_le_of_below h
  show max (m.log2 + 1 + e - 53) (-1074) ≤ -39
  omega

/-- Neither a shift to the exponent of a significand of 53 bits nor the rounding after it lead above the limit. -/
theorem below_shiftToTargetExponent {m : Nat} {e : Int} (h : Below m e) :
    let shifted := shiftToTargetExponent Format.binary64 m e .exact
    Below shifted.1.mantissa shifted.2 ∧ Below shifted.1.roundedMantissa shifted.2 := by
  have htarget := targetExponent_le_of_below h
  obtain ⟨he, hm⟩ := h
  let s := (Format.binary64.targetExponent (totalExponent m e) - e).toNat
  have hexponent : e + s ≤ -39 := by omega
  have hpow : Nat.pow 2 (-e).toNat = Nat.pow 2 (-(e + s)).toNat * Nat.pow 2 s := by
    rw [← two_pow_add]
    congr 1
    omega
  rw [hpow, ← Nat.mul_assoc] at hm
  obtain ⟨hle, hlt⟩ := shiftRight_le m s
  have hlimit := Nat.le_of_mul_le_mul_right (Nat.le_trans hle hm) (two_pow_pos s)
  exact ⟨⟨hexponent, hlimit⟩, hexponent, roundedMantissa_le hlimit fun hlost =>
    Nat.lt_of_mul_lt_mul_right (Nat.lt_of_lt_of_le (hlt hlost) hm)⟩

/-- What comes of rounding a number up to the limit to a significand of 53 bits. -/
theorem below_roundWithAccuracy {m : Nat} {e : Int} (h : Below m e) (sign : Sign) :
    roundWithAccuracy Format.binary64 sign m e .exact = .zero sign ∨ ∃ m' e' hpos,
      roundWithAccuracy Format.binary64 sign m e .exact = .finite sign m' e' hpos ∧ Below m' e' := by
  obtain ⟨-, hrounded⟩ := below_shiftToTargetExponent h
  obtain ⟨hfinal, -⟩ := below_shiftToTargetExponent hrounded
  let first := shiftToTargetExponent Format.binary64 m e .exact
  let second := shiftToTargetExponent Format.binary64 first.1.roundedMantissa first.2 .exact
  by_cases hzero : second.1.mantissa = 0
  · exact Or.inl (dif_pos hzero)
  · exact Or.inr ⟨_, _, Nat.pos_of_ne_zero hzero, dif_neg hzero, hfinal⟩

/-! ### The bits of a double -/

theorem parts_pack {f : UnpackedFloat} {sign : Sign} {exponent : BitVec 11} {fraction : BitVec 52}
    (h : UnpackedFloat.pack Format.binary64 f = packComponents Format.binary64 sign exponent fraction) :
    parts (.ofModel (.pack f)) =
      if exponent.toNat = 0 then (fraction.toNat, 0) else (fraction.toNat + Nat.pow 2 52, exponent.toNat - 1) := by
  have hfraction : (packComponents Format.binary64 sign exponent fraction).toNat % Nat.pow 2 52 = fraction.toNat := by
    have hunpack := congrArg BitVec.toNat (@unpackMantissa_packComponents Format.binary64 sign exponent fraction)
    simpa [unpackMantissa] using hunpack
  have hexponent : (packComponents Format.binary64 sign exponent fraction).toNat / Nat.pow 2 52 % Nat.pow 2 11 =
      exponent.toNat := by
    have hunpack := congrArg BitVec.toNat (@unpackExponent_packComponents Format.binary64 sign exponent fraction)
    simpa [unpackExponent, Nat.shiftRight_eq_div_pow] using hunpack
  have hbits : (Float.ofModel (.pack f)).toBits.toNat =
      (packComponents Format.binary64 sign exponent fraction).toNat := congrArg BitVec.toNat h
  unfold parts
  dsimp only
  rw [hbits, hfraction, hexponent]

/-- A number up to the limit is rounded to the limit at most. -/
theorem round_le {x : Float} {m biased k : Nat} (hparts : parts x = (m, biased)) (hk : biased + k = 1074)
    (hpos : 0 < k) (hm : m ≤ 10000 * Nat.pow 2 k) : round x ≤ 10000 := by
  obtain rfl : k = 1074 - biased := by omega
  unfold round
  rw [hparts]
  dsimp only
  split
  · exact Nat.zero_le _
  · rw [if_neg (by omega)]
    have hpow := two_pow_pos (1074 - biased)
    apply Nat.le_of_lt_succ
    apply Nat.div_lt_of_lt_mul
    show 2 * m + Nat.pow 2 (1074 - biased) < Nat.pow 2 (1074 - biased) * 2 * 10001
    omega

/-- So is a double that is too small for a leading one in its significand. -/
theorem round_le_of_fraction {x : Float} {fraction : BitVec 52} (hparts : parts x = (fraction.toNat, 0)) :
    round x ≤ 10000 := by
  obtain ⟨k, hk⟩ : ∃ k, 0 + k = 1074 := ⟨1074, rfl⟩
  refine round_le hparts hk (by omega) ?_
  have hlt : fraction.toNat < Nat.pow 2 52 := fraction.isLt
  have hle : Nat.pow 2 52 ≤ Nat.pow 2 k := Nat.pow_le_pow_right (by decide) (by omega)
  omega

theorem round_pack_zero (sign : Sign) : round (.ofModel (.pack (.zero sign))) ≤ 10000 := by
  have hpack : UnpackedFloat.pack Format.binary64 (.zero sign) = packComponents Format.binary64 sign 0 0 := rfl
  exact round_le_of_fraction (parts_pack hpack)

theorem round_pack_finite {m : Nat} {e : Int} {hpos : 0 < m} (h : Below m e) (sign : Sign) :
    round (.ofModel (.pack (.finite sign m e hpos))) ≤ 10000 := by
  obtain ⟨he, hm⟩ := h
  let biased := (e + 1023 + 52).toNat
  have hpack : UnpackedFloat.pack Format.binary64 (.finite sign m e hpos) =
      if 2048 ≤ biased + 1 then packedInfinity Format.binary64 sign
      else if m.log2 + 1 = 53 then packComponents Format.binary64 sign (BitVec.ofNat 11 biased) (BitVec.ofNat 52 m)
      else packComponents Format.binary64 sign 0 (BitVec.ofNat 52 m) := rfl
  rw [if_neg (by omega)] at hpack
  by_cases hlog : m.log2 + 1 = 53
  · rw [if_pos hlog] at hpack
    have hbiased : (BitVec.ofNat 11 biased).toNat = biased := Nat.mod_eq_of_lt (show biased < 2048 by omega)
    have hparts := parts_pack hpack
    rw [hbiased] at hparts
    by_cases hfirst : biased = 0
    · rw [if_pos hfirst] at hparts
      exact round_le_of_fraction hparts
    · rw [if_neg hfirst] at hparts
      have hlow : Nat.pow 2 52 ≤ m := (Nat.le_log2 (by omega)).1 (show 52 ≤ m.log2 by omega)
      have hhigh : m < Nat.pow 2 53 := (Nat.log2_lt (by omega)).1 (show m.log2 < 53 by omega)
      have hleading : (BitVec.ofNat 52 m).toNat + Nat.pow 2 52 = m := by
        show m % Nat.pow 2 52 + Nat.pow 2 52 = m
        have htwice : Nat.pow 2 53 = Nat.pow 2 52 + Nat.pow 2 52 := rfl
        rw [Nat.mod_eq_sub_mod hlow, Nat.mod_eq_of_lt (by omega), Nat.sub_add_cancel hlow]
      rw [hleading] at hparts
      exact round_le hparts (by omega) (by omega) hm
  · rw [if_neg hlog] at hpack
    exact round_le_of_fraction (parts_pack hpack)

/-! ### Products -/

theorem unpack_lt {b : BitVec 64} {sign : Sign} {m : Nat} {e : Int} {hpos : 0 < m}
    (h : UnpackedFloat.unpack Format.binary64 b = .finite sign m e hpos) : m < Nat.pow 2 53 := by
  unfold UnpackedFloat.unpack at h
  dsimp only at h
  by_cases hlast : @unpackExponent Format.binary64 b = -1#11
  · rw [if_pos hlast] at h
    by_cases hzero : @unpackMantissa Format.binary64 b = 0#52
    · rw [if_pos hzero] at h
      cases h
    · rw [if_neg hzero] at h
      cases h
  · rw [if_neg hlast] at h
    by_cases hfirst : @unpackExponent Format.binary64 b = 0#11
    · rw [if_pos hfirst] at h
      by_cases hzero : @unpackMantissa Format.binary64 b = 0#52
      · rw [dif_pos hzero] at h
        cases h
      · rw [dif_neg hzero] at h
        cases h
        exact Nat.lt_trans (BitVec.isLt _) (by decide)
    · rw [if_neg hfirst] at h
      cases h
      exact BitVec.isLt _

/-- A number from `0` to `100` is zero, or has a significand and an exponent below those of `100`. -/
theorem unpack_cases {x : Float} (hlow : 0 ≤ x) (hhigh : x ≤ 100) :
    (∃ sign, x.toModel.unpack = .zero sign) ∨ ∃ m e hpos, x.toModel.unpack = .finite .positive m e hpos ∧
      m < Nat.pow 2 53 ∧ (e < -46 ∨ e = -46 ∧ m ≤ 100 * Nat.pow 2 46) := by
  have hzero : (0 : Float).toModel.unpack = .zero .positive := rfl
  have hhundred : (100 : Float).toModel.unpack = .finite .positive (100 * Nat.pow 2 46) (-46) (by decide) := rfl
  have hlow' : (UnpackedFloat.compare (0 : Float).toModel.unpack x.toModel.unpack).any (·.isLE) = true :=
    of_decide_eq_true hlow
  have hhigh' : (UnpackedFloat.compare x.toModel.unpack (100 : Float).toModel.unpack).any (·.isLE) = true :=
    of_decide_eq_true hhigh
  rw [hzero] at hlow'
  rw [hhundred] at hhigh'
  cases hx : x.toModel.unpack with
  | notANumber =>
      rw [hx] at hlow'
      cases hlow'
  | infinity sign =>
      rw [hx] at hlow' hhigh'
      cases sign with
      | positive => cases hhigh'
      | negative => cases hlow'
  | zero sign => exact Or.inl ⟨sign, rfl⟩
  | finite sign m e hpos =>
    rw [hx] at hlow' hhigh'
    cases sign with
    | negative => cases hlow'
    | positive =>
      refine Or.inr ⟨m, e, hpos, rfl, unpack_lt hx, ?_⟩
      have hcompare : (((compare e (-46)).then (compare m (100 * Nat.pow 2 46))).isLE) = true := hhigh'
      rw [Ordering.isLE_then_iff_or, Int.compare_eq_lt, Int.compare_eq_eq, Nat.isLE_compare] at hcompare
      exact hcompare

theorem below_mul_hundred {m : Nat} {e : Int} (hm : m < Nat.pow 2 53)
    (h : e < -46 ∨ e = -46 ∧ m ≤ 100 * Nat.pow 2 46) : Below (m * (100 * Nat.pow 2 46)) (e + -46) := by
  refine ⟨by omega, ?_⟩
  rcases h with hlt | ⟨rfl, hle⟩
  · obtain ⟨k, hk⟩ : ∃ k, (-(e + -46)).toNat = 93 + k := ⟨(-(e + -46)).toNat - 93, by omega⟩
    rw [hk, two_pow_add, ← Nat.mul_assoc 10000]
    calc m * (100 * Nat.pow 2 46)
        ≤ Nat.pow 2 53 * (100 * Nat.pow 2 46) := Nat.mul_le_mul_right _ (Nat.le_of_lt hm)
      _ ≤ 10000 * Nat.pow 2 93 := by decide
      _ ≤ 10000 * Nat.pow 2 93 * Nat.pow 2 k := Nat.le_mul_of_pos_right _ (two_pow_pos k)
  · calc m * (100 * Nat.pow 2 46)
        ≤ 100 * Nat.pow 2 46 * (100 * Nat.pow 2 46) := Nat.mul_le_mul_right _ hle
      _ ≤ 10000 * Nat.pow 2 92 := by decide

/-- A hundred times a number from `0` to `100`, rounded to a double and then to a whole number. -/
theorem round_mul_hundred_le {x : Float} (hlow : 0 ≤ x) (hhigh : x ≤ 100) : round (x * 100) ≤ 10000 := by
  have hhundred : (100 : Float).toModel.unpack = .finite .positive (100 * Nat.pow 2 46) (-46) (by decide) := rfl
  have hmul : x * 100 = .ofModel (.pack
    (UnpackedFloat.mul Format.binary64 x.toModel.unpack (100 : Float).toModel.unpack)) := rfl
  rw [hmul, hhundred]
  rcases unpack_cases hlow hhigh with ⟨sign, hx⟩ | ⟨m, e, hpos, hx, hm, he⟩
  · rw [hx]
    exact round_pack_zero _
  · rw [hx]
    show round (.ofModel (.pack (roundWithAccuracy Format.binary64 .positive _ _ .exact))) ≤ 10000
    rcases below_roundWithAccuracy (below_mul_hundred hm he) .positive with hzero | ⟨m', e', hpos', hfinite, hbelow⟩
    · rw [hzero]
      exact round_pack_zero _
    · rw [hfinite]
      exact round_pack_finite hbelow _

end MintDrop.Double
