import Mathlib.Data.List.Basic
import Mathlib.Data.List.TakeDrop
import MintDrop.Json.Reader
import MintDrop.Proofs.Json.Text

/-!
# Reading written numbers

`Json.uint32` reads the number that stands between quotes as a key (`uint32_key`).  Its digits are those of
`Nat.toDigits`, which begin with a zero only for zero itself (`eq_zero_of_head?_toDigits`).
-/

namespace MintDrop.Json

/-! ### Digits -/

theorem range_of_isDigit {c : Char} (h : c.isDigit = true) : 0x30 ≤ c.toNat ∧ c.toNat ≤ 0x39 := by
  simp only [Char.isDigit, Bool.and_eq_true, decide_eq_true_eq, ge_iff_le, UInt32.le_iff_toNat_le] at h
  exact h

theorem toNat_byte {c : Char} (h : c.isDigit = true) : (byte c).toNat = c.toNat := by
  have hrange := range_of_isDigit h
  exact Utf8.toNat_byte (by omega)

theorem isDigit_byte {c : Char} (h : c.isDigit = true) : isDigit (byte c) = true := by
  rw [isDigit, Bool.and_eq_true, decide_eq_true_eq, decide_eq_true_eq, UInt8.le_iff_toNat_le, UInt8.le_iff_toNat_le,
    toNat_byte h]
  exact range_of_isDigit h

theorem escapeChar_of_isDigit {c : Char} (h : c.isDigit = true) : escapeChar c = [c] := by
  have hrange := range_of_isDigit h
  have hne {d : Char} (hd : d.toNat < 0x30 ∨ 0x39 < d.toNat) : c ≠ d := by
    rintro rfl
    omega
  rw [escapeChar, if_neg (hne (by decide)), if_neg (hne (by decide)), if_neg (hne (by decide)),
    if_neg (hne (by decide)), if_neg (hne (by decide)), if_neg (hne (by decide)), if_neg (hne (by decide)),
    if_neg (by omega)]

theorem isDigit_of_mem_toDigits (n : ℕ) : ∀ c ∈ Nat.toDigits 10 n, c.isDigit = true := fun _ hc =>
  Nat.isDigit_of_mem_toDigits (by decide) (by decide) hc

theorem eq_zero_of_head?_toDigits {n : ℕ} (h : (Nat.toDigits 10 n).head? = some '0') : n = 0 := by
  induction n using Nat.strongRecOn with
  | ind n ih =>
      by_cases hlt : n < 10
      · have hdigit : ∀ n < 10, (Nat.toDigits 10 n).head? = some '0' → n = 0 := by decide
        exact hdigit n hlt h
      · rw [Nat.toDigits_of_base_le (by decide) (by omega), List.head?_append_of_ne_nil _ Nat.toDigits_ne_nil] at h
        have hzero := ih (n / 10) (by omega) h
        omega

/-! ### Values -/

theorem le_ofDigitChars (cs : List Char) (n : ℕ) : n ≤ Nat.ofDigitChars 10 cs n := by
  rw [Nat.ofDigitChars_eq_ofDigitChars_zero]
  exact Nat.le_add_right_of_le (Nat.le_mul_of_pos_left n (Nat.pow_pos (by decide)))

/-- Digits whose value is within 64 bits are all taken. -/
theorem extend_map {cs : List Char} (h : ∀ c ∈ cs, c.isDigit = true) {n : ℕ}
    (hlt : Nat.ofDigitChars 10 cs n < UInt64.size) : extend n (cs.map byte) = (Nat.ofDigitChars 10 cs n, 0) := by
  induction cs generalizing n with
  | nil => rfl
  | cons c cs ih =>
      obtain ⟨hc, hcs⟩ := List.forall_mem_cons.1 h
      have hvalue : digitValue (byte c) = c.toNat - '0'.toNat := by
        rw [digitValue, toNat_byte hc]
        rfl
      rw [Nat.ofDigitChars_cons] at hlt ⊢
      have hstep := Nat.lt_of_le_of_lt (le_ofDigitChars cs _) hlt
      rw [List.map_cons, extend, hvalue, if_pos hstep, ih hcs hlt]

theorem digits_append {cs : List Char} (h : ∀ c ∈ cs, c.isDigit = true) {b : UInt8} (hb : isDigit b = false)
    (rest : Bytes) : digits (cs.map byte ++ b :: rest) = (cs.map byte, b :: rest) := by
  have hall : ∀ b ∈ cs.map byte, isDigit b = true := by
    intro b hb
    obtain ⟨c, hc, rfl⟩ := List.mem_map.1 hb
    exact isDigit_byte (h c hc)
  rw [digits, List.span_eq_takeWhile_dropWhile, List.takeWhile_append_of_pos hall, List.dropWhile_append_of_pos hall,
    List.takeWhile_cons_of_neg (by simpa using hb), List.dropWhile_cons_of_neg (by simpa using hb), List.append_nil]

/-- A number within 64 bits is read off its digits, if no digit, point or exponent follows. -/
theorem unsignedNumber_toDigits {n : ℕ} (hn : n < UInt64.size) {b : UInt8} (hb : isDigit b = false)
    (hpoint : b ≠ byte '.') (hsmall : b ≠ byte 'e') (hlarge : b ≠ byte 'E') (rest : Bytes) :
    unsignedNumber true ((Nat.toDigits 10 n).map byte ++ b :: rest) = .ok (.whole n, b :: rest) := by
  have hdigit := isDigit_of_mem_toDigits n
  have hextend := extend_map hdigit (n := 0) (by rwa [Nat.ofDigitChars_ten_toDigits])
  rw [Nat.ofDigitChars_ten_toDigits] at hextend
  have hspan := digits_append hdigit hb rest
  have hwhole : wholeEnd true n 0 = .ok (.whole n) := rfl
  unfold unsignedNumber
  rw [hspan]
  cases hds : Nat.toDigits 10 n with
  | nil => exact absurd hds Nat.toDigits_ne_nil
  | cons c cs =>
      rw [hds] at hextend
      have hzero : ¬ (byte c = byte '0' ∧ (!(cs.map byte).isEmpty) = true) := by
        rintro ⟨hc, hmore⟩
        have hc0 : c = '0' := by
          rw [← UInt8.toNat_inj, toNat_byte (hdigit c (by rw [hds]; exact List.mem_cons_self))] at hc
          exact Char.toNat_inj.1 hc
        have hn0 : n = 0 := eq_zero_of_head?_toDigits (by rw [hds, hc0]; rfl)
        subst hn0
        cases hds
        cases hmore
      simp only [List.map_cons] at hextend ⊢
      rw [if_neg hzero]
      simp only [hextend, hpoint, hsmall, hlarge, if_false, decide_false, Bool.or_false, Bool.false_eq_true, hwhole]
      rfl

/-! ### Keys -/

theorem utf8_key (n : ℕ) : utf8 ((toString n).toList.flatMap escapeChar) = (Nat.toDigits 10 n).map byte := by
  have hdigit := isDigit_of_mem_toDigits n
  have hescape : (Nat.toDigits 10 n).flatMap escapeChar = Nat.toDigits 10 n := by
    rw [List.flatMap_congr fun c hc => escapeChar_of_isDigit (hdigit c hc), List.flatMap_singleton']
  rw [Nat.toString_eq_ofList_toDigits, String.toList_ofList, hescape, utf8_eq_map]
  intro c hc
  have hrange := range_of_isDigit (hdigit c hc)
  omega

theorem exists_digit_key (n : ℕ) : ∃ b bs, (Nat.toDigits 10 n).map byte = b :: bs ∧ isDigit b = true := by
  cases hds : Nat.toDigits 10 n with
  | nil => exact absurd hds Nat.toDigits_ne_nil
  | cons c cs =>
      refine ⟨byte c, cs.map byte, rfl, isDigit_byte ?_⟩
      exact isDigit_of_mem_toDigits n c (by rw [hds]; exact List.mem_cons_self)

theorem ne_of_isDigit {b c : UInt8} (hb : isDigit b = true) (hc : isDigit c = false) : b ≠ c := by
  rintro rfl
  rw [hb] at hc
  cases hc

theorem isBlank_of_isDigit {b : UInt8} (h : isDigit b = true) : isBlank b = false := by
  rw [isBlank, decide_eq_false (ne_of_isDigit h (by decide)), decide_eq_false (ne_of_isDigit h (by decide)),
    decide_eq_false (ne_of_isDigit h (by decide)), decide_eq_false (ne_of_isDigit h (by decide))]
  rfl

/-- A whole number is read off its digits up to a quote. -/
theorem natural_key {n bound : ℕ} (hn : n < bound) (hbound : bound ≤ UInt64.size) (expected : String) (depth : ℕ)
    (rest : Bytes) :
    natural expected bound depth ((Nat.toDigits 10 n).map byte ++ byte '"' :: rest) = .ok (n, byte '"' :: rest) := by
  have hread := unsignedNumber_toDigits (Nat.lt_of_lt_of_le hn hbound) (b := byte '"') (by decide)
    (by decide) (by decide) (by decide) rest
  obtain ⟨b, bs, hbs, hb⟩ := exists_digit_key n
  rw [hbs, List.cons_append] at hread ⊢
  have hnumber : number (b :: (bs ++ byte '"' :: rest)) = .ok (.whole n, byte '"' :: rest) := by
    rw [number, if_neg (ne_of_isDigit hb (by decide)), hread]
  have hrange : (0 : Int) ≤ n ∧ (n : Int) < bound := by omega
  simp only [natural, numeric, skipBlanks_cons (isBlank_of_isDigit hb), hb, Bool.or_true, if_true, hnumber,
    if_pos hrange, bind, Except.bind, pure, Except.pure, Int.toNat_natCast]

/-- The number of a key is read up to the closing quote. -/
theorem uint32_key (i : UInt32) (depth : ℕ) (rest : Bytes) :
    uint32 depth ((Nat.toDigits 10 i.toNat).map byte ++ byte '"' :: rest) = .ok (i, byte '"' :: rest) := by
  rw [uint32, natural_key i.toNat_lt (by decide)]
  exact congrArg (fun j => Except.ok (j, byte '"' :: rest)) UInt32.ofNat_toNat

end MintDrop.Json
