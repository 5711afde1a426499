import Mathlib.Tactic.Common
import MintDrop.Proofs.Except
import MintDrop.Text.Utf8

/-!
# Reading written UTF-8

`Utf8.decode` reads the text that `Utf8.encode` wrote (`decode_encode`), so that no two texts have the same
bytes (`encode_injective`), and reads nothing else (`encode_of_decode`).  A character is read off the head of its
bytes whatever follows (`decodeFrom_encodeChar`); `lead?` is computed for the first byte of each width, and says
which second bytes may follow it (`range_of_lead?`).
-/

namespace MintDrop.Utf8

/-! ### First bytes -/

theorem lead?_one {a : UInt8} (h : a.toNat < 0x80) : lead? a = some (1, 0, 0) := by
  have h₁ : a < 0x80 := UInt8.lt_iff_toNat_lt.2 h
  rw [lead?, if_pos h₁]

theorem lead?_two {a : UInt8} (hlow : 0xc2 ≤ a.toNat) (hhigh : a.toNat < 0xe0) :
    lead? a = some (2, 0x80, 0xbf) := by
  have h₁ : ¬ a < 0x80 := fun h => absurd (UInt8.lt_iff_toNat_lt.1 h) (by change ¬ a.toNat < 0x80; omega)
  have h₂ : ¬ a < 0xc2 := fun h => absurd (UInt8.lt_iff_toNat_lt.1 h) (by change ¬ a.toNat < 0xc2; omega)
  have h₃ : a < 0xe0 := UInt8.lt_iff_toNat_lt.2 hhigh
  rw [lead?, if_neg h₁, if_neg h₂, if_pos h₃]

/-- The bounds of the second byte leave out spellings that are too long, and surrogates. -/
theorem lead?_three {a : UInt8} (hlow : 0xe0 ≤ a.toNat) (hhigh : a.toNat < 0xf0) :
    lead? a = some (3, if a.toNat = 0xe0 then 0xa0 else 0x80, if a.toNat = 0xed then 0x9f else 0xbf) := by
  have h₁ : ¬ a < 0x80 := fun h => absurd (UInt8.lt_iff_toNat_lt.1 h) (by change ¬ a.toNat < 0x80; omega)
  have h₂ : ¬ a < 0xc2 := fun h => absurd (UInt8.lt_iff_toNat_lt.1 h) (by change ¬ a.toNat < 0xc2; omega)
  have h₃ : ¬ a < 0xe0 := fun h => absurd (UInt8.lt_iff_toNat_lt.1 h) (by change ¬ a.toNat < 0xe0; omega)
  have h₄ : a = 0xe0 ↔ a.toNat = 0xe0 := UInt8.toNat_inj.symm
  have h₅ : a = 0xed ↔ a.toNat = 0xed := UInt8.toNat_inj.symm
  have h₆ : a < 0xf0 := UInt8.lt_iff_toNat_lt.2 hhigh
  simp only [lead?, if_neg h₁, if_neg h₂, if_neg h₃, h₄, h₅, if_pos h₆]
  split_ifs <;> first | rfl | omega

/-- The bounds of the second byte leave out spellings that are too long, and numbers that are too large. -/
theorem lead?_four {a : UInt8} (hlow : 0xf0 ≤ a.toNat) (hhigh : a.toNat < 0xf5) :
    lead? a = some (4, if a.toNat = 0xf0 then 0x90 else 0x80, if a.toNat = 0xf4 then 0x8f else 0xbf) := by
  have h₁ : ¬ a < 0x80 := fun h => absurd (UInt8.lt_iff_toNat_lt.1 h) (by change ¬ a.toNat < 0x80; omega)
  have h₂ : ¬ a < 0xc2 := fun h => absurd (UInt8.lt_iff_toNat_lt.1 h) (by change ¬ a.toNat < 0xc2; omega)
  have h₃ : ¬ a < 0xe0 := fun h => absurd (UInt8.lt_iff_toNat_lt.1 h) (by change ¬ a.toNat < 0xe0; omega)
  have h₄ : a ≠ 0xe0 := fun h => absurd (congrArg UInt8.toNat h) (by change a.toNat ≠ 0xe0; omega)
  have h₅ : a ≠ 0xed := fun h => absurd (congrArg UInt8.toNat h) (by change a.toNat ≠ 0xed; omega)
  have h₆ : ¬ a < 0xf0 := fun h => absurd (UInt8.lt_iff_toNat_lt.1 h) (by change ¬ a.toNat < 0xf0; omega)
  have h₇ : a = 0xf0 ↔ a.toNat = 0xf0 := UInt8.toNat_inj.symm
  have h₈ : a < 0xf4 ↔ a.toNat < 0xf4 := UInt8.lt_iff_toNat_lt
  have h₉ : a = 0xf4 ↔ a.toNat = 0xf4 := UInt8.toNat_inj.symm
  simp only [lead?, if_neg h₁, if_neg h₂, if_neg h₃, if_neg h₄, if_neg h₅, if_neg h₆, h₇, h₈, h₉]
  split_ifs <;> first | rfl | omega

theorem lead?_none {a : UInt8} (h : 0x80 ≤ a.toNat ∧ a.toNat < 0xc2 ∨ 0xf5 ≤ a.toNat) : lead? a = none := by
  simp only [lead?, UInt8.lt_iff_toNat_lt, ← UInt8.toNat_inj, UInt8.reduceToNat]
  split_ifs <;> first | rfl | omega

/-- What a first byte says about itself and about the second one. -/
theorem range_of_lead? {a : UInt8} {width : Nat} {low high : UInt8} (h : lead? a = some (width, low, high)) :
    (width = 1 ∧ a.toNat < 0x80) ∨ (width ≠ 1 ∧ ∀ b, low ≤ b → b ≤ high → 0x80 ≤ b.toNat ∧ b.toNat ≤ 0xbf ∧
      ((width = 2 ∧ 0xc2 ≤ a.toNat ∧ a.toNat < 0xe0) ∨
        (width = 3 ∧ 0xe0 ≤ a.toNat ∧ a.toNat < 0xf0 ∧ (a.toNat = 0xe0 → 0xa0 ≤ b.toNat) ∧
          (a.toNat = 0xed → b.toNat ≤ 0x9f)) ∨
        (width = 4 ∧ 0xf0 ≤ a.toNat ∧ a.toNat < 0xf5 ∧ (a.toNat = 0xf0 → 0x90 ≤ b.toNat) ∧
          (a.toNat = 0xf4 → b.toNat ≤ 0x8f)))) := by
  have hcases : a.toNat < 0x80 ∨ (0x80 ≤ a.toNat ∧ a.toNat < 0xc2 ∨ 0xf5 ≤ a.toNat) ∨
      (0xc2 ≤ a.toNat ∧ a.toNat < 0xe0) ∨ (0xe0 ≤ a.toNat ∧ a.toNat < 0xf0) ∨
      (0xf0 ≤ a.toNat ∧ a.toNat < 0xf5) := by omega
  simp only [UInt8.le_iff_toNat_le]
  rcases hcases with hone | hnone | htwo | hthree | hfour
  · rw [lead?_one hone] at h
    cases h
    exact .inl ⟨rfl, hone⟩
  · rw [lead?_none hnone] at h
    cases h
  · rw [lead?_two htwo.1 htwo.2] at h
    cases h
    exact .inr ⟨by decide, fun b hlow hhigh => ⟨hlow, hhigh, .inl ⟨rfl, htwo⟩⟩⟩
  · rw [lead?_three hthree.1 hthree.2] at h
    cases h
    refine .inr ⟨by decide, fun b hlow hhigh => ?_⟩
    split_ifs at hlow hhigh <;> simp at hlow hhigh <;> omega
  · rw [lead?_four hfour.1 hfour.2] at h
    cases h
    refine .inr ⟨by decide, fun b hlow hhigh => ?_⟩
    split_ifs at hlow hhigh <;> simp at hlow hhigh <;> omega

theorem toNat_byte {n : Nat} (h : n < 256) : (UInt8.ofNat n).toNat = n := UInt8.toNat_ofNat_of_lt' h

theorem byte_between {low high : UInt8} {n : Nat} (hlow : low.toNat ≤ n) (hhigh : n ≤ high.toNat) :
    low ≤ UInt8.ofNat n ∧ UInt8.ofNat n ≤ high := by
  have hn : (UInt8.ofNat n).toNat = n := toNat_byte (Nat.lt_of_le_of_lt hhigh high.toNat_lt)
  rw [UInt8.le_iff_toNat_le, UInt8.le_iff_toNat_le, hn]
  exact ⟨hlow, hhigh⟩

theorem isTail_byte {n : Nat} (h : n < 64) : isTail (UInt8.ofNat (n + 0x80)) = true := by
  have hrange : (0x80 : UInt8) ≤ UInt8.ofNat (n + 0x80) ∧ UInt8.ofNat (n + 0x80) ≤ 0xbf :=
    byte_between (by simp) (by simp; omega)
  rw [isTail, Bool.and_eq_true, decide_eq_true_eq, decide_eq_true_eq]
  exact hrange

theorem isTail_iff {b : UInt8} : isTail b = true ↔ 0x80 ≤ b.toNat ∧ b.toNat ≤ 0xbf := by
  rw [isTail, Bool.and_eq_true, decide_eq_true_eq, decide_eq_true_eq, UInt8.le_iff_toNat_le,
    UInt8.le_iff_toNat_le]
  rfl

/-! ### Characters by their width -/

variable {index v : Nat} {rest : Bytes}

theorem decodeFrom_one (h : v ≤ 0x7f) :
    decodeFrom index (UInt8.ofNat v :: rest) = (decodeFrom (index + 1) rest).map (Char.ofNat v :: ·) := by
  have ha := toNat_byte (n := v) (by omega)
  simp only [decodeFrom, lead?_one (a := UInt8.ofNat v) (by omega), ha]

theorem decodeFrom_two (hlow : 0x80 ≤ v) (hhigh : v ≤ 0x7ff) :
    decodeFrom index (UInt8.ofNat (v / 64 % 0x20 + 0xc0) :: UInt8.ofNat (v % 0x40 + 0x80) :: rest)
      = (decodeFrom (index + 2) rest).map (Char.ofNat v :: ·) := by
  have ha := toNat_byte (n := v / 64 % 0x20 + 0xc0) (by omega)
  have hb := toNat_byte (n := v % 0x40 + 0x80) (by omega)
  have hrange : (0x80 : UInt8) ≤ UInt8.ofNat (v % 0x40 + 0x80) ∧ UInt8.ofNat (v % 0x40 + 0x80) ≤ 0xbf :=
    byte_between (by simp) (by simp; omega)
  have hjoin : join₂ (UInt8.ofNat (v / 64 % 0x20 + 0xc0)) (UInt8.ofNat (v % 0x40 + 0x80)) = Char.ofNat v := by
    rw [join₂, ha, hb]
    refine congrArg Char.ofNat ?_
    omega
  have hlead := lead?_two (a := UInt8.ofNat (v / 64 % 0x20 + 0xc0)) (by omega) (by omega)
  simp only [decodeFrom, hlead, if_pos hrange, hjoin]

theorem decodeFrom_three (hlow : 0x800 ≤ v) (hhigh : v ≤ 0xffff) (hvalid : v < 0xd800 ∨ 0xdfff < v) :
    decodeFrom index (UInt8.ofNat (v / 4096 % 0x10 + 0xe0) :: UInt8.ofNat (v / 64 % 0x40 + 0x80)
        :: UInt8.ofNat (v % 0x40 + 0x80) :: rest)
      = (decodeFrom (index + 3) rest).map (Char.ofNat v :: ·) := by
  have ha := toNat_byte (n := v / 4096 % 0x10 + 0xe0) (by omega)
  have hb := toNat_byte (n := v / 64 % 0x40 + 0x80) (by omega)
  have hc := toNat_byte (n := v % 0x40 + 0x80) (by omega)
  have hlead := lead?_three (a := UInt8.ofNat (v / 4096 % 0x10 + 0xe0)) (by omega) (by omega)
  rw [ha] at hlead
  have hsecond : (if v / 4096 % 0x10 + 0xe0 = 0xe0 then (0xa0 : UInt8) else 0x80)
        ≤ UInt8.ofNat (v / 64 % 0x40 + 0x80) ∧
      UInt8.ofNat (v / 64 % 0x40 + 0x80)
        ≤ (if v / 4096 % 0x10 + 0xe0 = 0xed then (0x9f : UInt8) else 0xbf) := by
    apply byte_between <;> split_ifs <;> simp <;> omega
  have htail := isTail_byte (n := v % 0x40) (by omega)
  have hjoin : join₃ (UInt8.ofNat (v / 4096 % 0x10 + 0xe0)) (UInt8.ofNat (v / 64 % 0x40 + 0x80))
      (UInt8.ofNat (v % 0x40 + 0x80)) = Char.ofNat v := by
    rw [join₃, ha, hb, hc]
    refine congrArg Char.ofNat ?_
    omega
  simp only [decodeFrom, hlead, if_pos (And.intro hsecond.1 (And.intro hsecond.2 htail)), hjoin]

theorem decodeFrom_four (hlow : 0x10000 ≤ v) (hhigh : v < 0x110000) :
    decodeFrom index (UInt8.ofNat (v / 262144 % 0x08 + 0xf0) :: UInt8.ofNat (v / 4096 % 0x40 + 0x80)
        :: UInt8.ofNat (v / 64 % 0x40 + 0x80) :: UInt8.ofNat (v % 0x40 + 0x80) :: rest)
      = (decodeFrom (index + 4) rest).map (Char.ofNat v :: ·) := by
  have ha := toNat_byte (n := v / 262144 % 0x08 + 0xf0) (by omega)
  have hb := toNat_byte (n := v / 4096 % 0x40 + 0x80) (by omega)
  have hc := toNat_byte (n := v / 64 % 0x40 + 0x80) (by omega)
  have hd := toNat_byte (n := v % 0x40 + 0x80) (by omega)
  have hlead := lead?_four (a := UInt8.ofNat (v / 262144 % 0x08 + 0xf0)) (by omega) (by omega)
  rw [ha] at hlead
  have hsecond : (if v / 262144 % 0x08 + 0xf0 = 0xf0 then (0x90 : UInt8) else 0x80)
        ≤ UInt8.ofNat (v / 4096 % 0x40 + 0x80) ∧
      UInt8.ofNat (v / 4096 % 0x40 + 0x80)
        ≤ (if v / 262144 % 0x08 + 0xf0 = 0xf4 then (0x8f : UInt8) else 0xbf) := by
    apply byte_between <;> split_ifs <;> simp <;> omega
  have htail := isTail_byte (n := v / 64 % 0x40) (by omega)
  have htail' := isTail_byte (n := v % 0x40) (by omega)
  have hjoin : join₄ (UInt8.ofNat (v / 262144 % 0x08 + 0xf0)) (UInt8.ofNat (v / 4096 % 0x40 + 0x80))
      (UInt8.ofNat (v / 64 % 0x40 + 0x80)) (UInt8.ofNat (v % 0x40 + 0x80)) = Char.ofNat v := by
    rw [join₄, ha, hb, hc, hd]
    refine congrArg Char.ofNat ?_
    omega
  simp only [decodeFrom, hlead, if_pos (And.intro hsecond.1 (And.intro hsecond.2 (And.intro htail htail'))),
    hjoin]

/-- A character is read off the head of its bytes, whatever follows them. -/
theorem decodeFrom_encodeChar (index : Nat) (c : Char) (rest : Bytes) :
    decodeFrom index (String.utf8EncodeChar c ++ rest)
      = (decodeFrom (index + (String.utf8EncodeChar c).length) rest).map (c :: ·) := by
  have hvalid : c.val.toNat < 0xd800 ∨ (0xdfff < c.val.toNat ∧ c.val.toNat < 0x110000) := c.valid
  have hc : Char.ofNat c.val.toNat = c := Char.ofNat_toNat c
  unfold String.utf8EncodeChar
  generalize c.val.toNat = v at hvalid hc
  subst hc
  dsimp only
  split_ifs with h₁ h₂ h₃
  · exact decodeFrom_one h₁
  · exact decodeFrom_two (by omega) h₂
  · exact decodeFrom_three (by omega) h₃ (by omega)
  · exact decodeFrom_four (by omega) (by omega)

/-! ### Characters by their bytes -/

theorem val_ofNat {v : Nat} (h : v < 0xd800 ∨ (0xdfff < v ∧ v < 0x110000)) : (Char.ofNat v).val.toNat = v := by
  have hvalid : v.isValidChar := h
  rw [Char.ofNat, dif_pos hvalid]
  rfl

theorem ofNat_eq_byte {n : Nat} {a : UInt8} (h : n = a.toNat) : UInt8.ofNat n = a := by
  rw [h, UInt8.ofNat_toNat]

theorem encodeChar_one {a : UInt8} (h : a.toNat < 0x80) : String.utf8EncodeChar (Char.ofNat a.toNat) = [a] := by
  have hv := val_ofNat (v := a.toNat) (by omega)
  rw [String.utf8EncodeChar, hv, if_pos (by omega), UInt8.ofNat_toNat]

variable {a b c d : UInt8}

theorem encodeChar_join₂ (ha : 0xc2 ≤ a.toNat ∧ a.toNat < 0xe0) (hb : 0x80 ≤ b.toNat ∧ b.toNat ≤ 0xbf) :
    String.utf8EncodeChar (join₂ a b) = [a, b] := by
  have hv := val_ofNat (v := (a.toNat - 0xc0) * 64 + (b.toNat - 0x80)) (by omega)
  rw [String.utf8EncodeChar, join₂, hv, if_neg (by omega), if_pos (by omega), ofNat_eq_byte (a := a) (by omega),
    ofNat_eq_byte (a := b) (by omega)]

theorem encodeChar_join₃ (ha : 0xe0 ≤ a.toNat ∧ a.toNat < 0xf0) (hb : 0x80 ≤ b.toNat ∧ b.toNat ≤ 0xbf)
    (hlow : a.toNat = 0xe0 → 0xa0 ≤ b.toNat) (hhigh : a.toNat = 0xed → b.toNat ≤ 0x9f)
    (hc : 0x80 ≤ c.toNat ∧ c.toNat ≤ 0xbf) : String.utf8EncodeChar (join₃ a b c) = [a, b, c] := by
  have hv := val_ofNat (v := (a.toNat - 0xe0) * 4096 + (b.toNat - 0x80) * 64 + (c.toNat - 0x80)) (by omega)
  rw [String.utf8EncodeChar, join₃, hv, if_neg (by omega), if_neg (by omega), if_pos (by omega),
    ofNat_eq_byte (a := a) (by omega), ofNat_eq_byte (a := b) (by omega), ofNat_eq_byte (a := c) (by omega)]

theorem encodeChar_join₄ (ha : 0xf0 ≤ a.toNat ∧ a.toNat < 0xf5) (hb : 0x80 ≤ b.toNat ∧ b.toNat ≤ 0xbf)
    (hlow : a.toNat = 0xf0 → 0x90 ≤ b.toNat) (hhigh : a.toNat = 0xf4 → b.toNat ≤ 0x8f)
    (hc : 0x80 ≤ c.toNat ∧ c.toNat ≤ 0xbf) (hd : 0x80 ≤ d.toNat ∧ d.toNat ≤ 0xbf) :
    String.utf8EncodeChar (join₄ a b c d) = [a, b, c, d] := by
  have hv := val_ofNat (v := (a.toNat - 0xf0) * 262144 + (b.toNat - 0x80) * 4096 + (c.toNat - 0x80) * 64
    + (d.toNat - 0x80)) (by omega)
  rw [String.utf8EncodeChar, join₄, hv, if_neg (by omega), if_neg (by omega), if_neg (by omega),
    ofNat_eq_byte (a := a) (by omega), ofNat_eq_byte (a := b) (by omega), ofNat_eq_byte (a := c) (by omega),
    ofNat_eq_byte (a := d) (by omega)]

/-! ### Texts -/

theorem decodeFrom_flatMap (index : Nat) (cs : List Char) :
    decodeFrom index (cs.flatMap String.utf8EncodeChar) = .ok cs := by
  induction cs generalizing index with
  | nil => rfl
  | cons c cs ih => rw [List.flatMap_cons, decodeFrom_encodeChar, ih]; rfl

/-- A byte string that is read as characters is what these are written as. -/
theorem flatMap_of_decodeFrom {index : Nat} {bs : Bytes} {cs : List Char} (h : decodeFrom index bs = .ok cs) :
    cs.flatMap String.utf8EncodeChar = bs := by
  -- One case for each width of a character; the reader has a fault in all others.
  fun_induction decodeFrom index bs generalizing cs with
  | case1 => cases h; rfl
  | case3 index a rest low high hlead ih =>
      obtain ⟨cs, hcs, rfl⟩ := exists_of_map_eq_ok h
      obtain ⟨-, ha⟩ | ⟨hne, -⟩ := range_of_lead? hlead
      · rw [List.flatMap_cons, ih hcs, encodeChar_one ha]
        rfl
      · exact absurd rfl hne
  | case4 index a low high b rest hb hwidth hlead ih =>
      obtain ⟨cs, hcs, rfl⟩ := exists_of_map_eq_ok h
      have hrange := ((range_of_lead? hlead).resolve_left (by omega)).2 b hb.1 hb.2
      rw [List.flatMap_cons, ih hcs, encodeChar_join₂ (by omega) (by omega)]
      rfl
  | case6 index a low high b c rest htails hwidth hlead ih =>
      obtain ⟨hlow, hhigh, hc⟩ := htails
      obtain ⟨cs, hcs, rfl⟩ := exists_of_map_eq_ok h
      have hrange := ((range_of_lead? hlead).resolve_left (by omega)).2 b hlow hhigh
      rw [List.flatMap_cons, ih hcs, encodeChar_join₃ (by omega) (by omega) (by omega) (by omega) (isTail_iff.1 hc)]
      rfl
  | case8 index a low high b c d rest htails hwidth hlead ih =>
      obtain ⟨hlow, hhigh, hc, hd⟩ := htails
      obtain ⟨cs, hcs, rfl⟩ := exists_of_map_eq_ok h
      have hrange := ((range_of_lead? hlead).resolve_left (by omega)).2 b hlow hhigh
      rw [List.flatMap_cons, ih hcs, encodeChar_join₄ (by omega) (by omega) (by omega) (by omega) (isTail_iff.1 hc)
        (isTail_iff.1 hd)]
      rfl
  | case2 | case5 | case7 | case9 | case10 => cases h

theorem decode_encode (s : String) : decode (encode s) = .ok s := by
  rw [decode, encode, decodeFrom_flatMap]
  exact congrArg Except.ok String.ofList_toList

/-- A byte string that is read as a text is what the text is written as. -/
theorem encode_of_decode {bs : Bytes} {s : String} (h : decode bs = .ok s) : encode s = bs := by
  obtain ⟨cs, hcs, rfl⟩ := exists_of_map_eq_ok h
  rw [encode, String.toList_ofList, flatMap_of_decodeFrom hcs]

theorem encode_injective : Function.Injective encode := by
  intro s t h
  have hread : decode (encode s) = decode (encode t) := congrArg decode h
  rw [decode_encode, decode_encode] at hread
  exact Except.ok.inj hread

theorem length_encode (s : String) : (encode s).length = size s := by
  rw [encode, size, ← String.size_toByteArray, ← String.utf8Encode_toList, List.utf8Encode, List.size_toByteArray]

theorem size_ofList {cs : List Char} (h : ∀ c ∈ cs, (String.utf8EncodeChar c).length = 1) :
    size (String.ofList cs) = cs.length := by
  rw [← length_encode, encode, String.toList_ofList]
  induction cs with
  | nil => rfl
  | cons c cs ih =>
      obtain ⟨hc, hcs⟩ := List.forall_mem_cons.1 h
      rw [List.flatMap_cons, List.length_append, hc, ih hcs, List.length_cons, Nat.add_comm]

end MintDrop.Utf8
