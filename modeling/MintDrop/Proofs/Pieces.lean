import MintDrop.Proofs.Partition

/-!
# The pieces of a cut range

`Span.partition` cuts a range of any bounds into pieces that hold its indices in order, all of the size that was asked
for but the last (`Span.pieces_partition`).  A piece ends at the sum of its start and the size, also at the largest
index, where the sum in words stops (`Span.stop_of_mem_partition`).  If groups fit into slices without a rest, the
groups of the slices are as many as those of the whole range (`length_groups`).
-/

namespace MintDrop

/-! ### Tilings -/

namespace Tiles

variable {a b : UInt32} {gs : List Span} {g : Span}

theorem of_cons (h : Tiles a (g :: gs) b) : a = g.start ∧ g.start < g.stop ∧ Tiles g.stop gs b := by
  cases h with
  | cons hg htail => exact ⟨rfl, hg, htail⟩

/-- The pieces hold the indices of the range that they tile, in order. -/
theorem flatMap_indices (h : Tiles a gs b) : gs.flatMap Span.indices = (⟨a, b⟩ : Span).indices := by
  induction h with
  | nil a => simp [Span.indices]
  | @cons g gs b hg htail ih =>
      have hstart : g.start.toNat ≤ g.stop.toNat := Nat.le_of_lt (UInt32.lt_iff_toNat_lt.1 hg)
      have hstop : g.stop.toNat ≤ b.toNat := UInt32.le_iff_toNat_le.1 htail.le
      have hrange : List.range' g.start.toNat (g.stop.toNat - g.start.toNat) ++
          List.range' g.stop.toNat (b.toNat - g.stop.toNat) =
            List.range' g.start.toNat (b.toNat - g.start.toNat) := by
        have happend := @List.range'_append_1 g.start.toNat (g.stop.toNat - g.start.toNat) (b.toNat - g.stop.toNat)
        rwa [show g.start.toNat + (g.stop.toNat - g.start.toNat) = g.stop.toNat by omega,
          show g.stop.toNat - g.start.toNat + (b.toNat - g.stop.toNat) = b.toNat - g.start.toNat by omega] at happend
      rw [List.flatMap_cons, ih]
      unfold Span.indices
      rw [← List.map_append, hrange]

theorem isChain (h : Tiles a gs b) : gs.IsChain fun x y => x.stop = y.start := by
  induction h with
  | nil => exact .nil
  | @cons g gs b _ htail ih =>
      cases gs with
      | nil => exact .singleton g
      | cons x gs => exact .cons_cons htail.of_cons.1 ih

/-- Only the last piece comes to the end. -/
theorem stop_lt_of_mem_dropLast (h : Tiles a gs b) (hg : g ∈ gs.dropLast) : g.stop < b := by
  induction h with
  | nil => cases hg
  | @cons x gs b _ htail ih =>
      cases gs with
      | nil => cases hg
      | cons y gs =>
          rcases List.mem_cons.1 hg with rfl | hg
          · obtain ⟨hstart, hlt, hrest⟩ := htail.of_cons
            rw [hstart]
            exact UInt32.lt_of_lt_of_le hlt hrest.le
          · exact ih hg

end Tiles

/-! ### Sums in words -/

/-- The sum of two words, or the largest word if that is less. -/
def saturatingAdd (a b : UInt32) : UInt32 := if a + b < a then UInt32.ofNat (UInt32.size - 1) else a + b

theorem toNat_saturatingAdd (a b : UInt32) :
    (saturatingAdd a b).toNat = min (a.toNat + b.toNat) (UInt32.size - 1) := by
  have ha := a.toNat_lt_size
  have hb := b.toNat_lt_size
  have hsum : (a + b).toNat = (a.toNat + b.toNat) % UInt32.size := UInt32.toNat_add a b
  unfold saturatingAdd
  simp only [UInt32.lt_iff_toNat_lt, hsum]
  by_cases hfits : a.toNat + b.toNat < UInt32.size
  · rw [Nat.mod_eq_of_lt hfits, if_neg (by omega), hsum, Nat.mod_eq_of_lt hfits]
    omega
  · -- The sum is less than twice the number of words, so that it wraps once.
    have hwrapped : (a.toNat + b.toNat) % UInt32.size = a.toNat + b.toNat - UInt32.size := by
      rw [Nat.mod_eq_sub_mod (by omega), Nat.mod_eq_of_lt (by omega)]
    rw [hwrapped, if_pos (by omega), UInt32.toNat_ofNat_of_lt' (by decide)]
    omega

namespace Span

variable {s g : Span} {size : ℕ}

theorem one_le_clamp (size : ℕ) : 1 ≤ clamp size := Nat.le_max_left _ _

theorem clamp_lt (size : ℕ) : clamp size < UInt32.size := by
  unfold clamp
  simp only [UInt32.size]
  omega

theorem clamp_of_fits (hone : 1 ≤ size) (hsize : size < UInt32.size) : clamp size = size := by
  unfold clamp
  omega

/-- The end of a piece, computed in words, is the sum of its start and the size, or the end of the range. -/
theorem stop_of_mem_partition (hg : g ∈ s.partition size) :
    g.stop = min (saturatingAdd g.start (UInt32.ofNat (clamp size))) s.stop ∧
      g.stop.toNat = min (g.start.toNat + clamp size) s.stop.toNat := by
  obtain ⟨-, -, hstop⟩ := exists_of_mem_partition hg
  refine ⟨?_, hstop⟩
  have hlast := s.stop.toNat_lt_size
  have hsum := toNat_saturatingAdd g.start (UInt32.ofNat (clamp size))
  rw [UInt32.toNat_ofNat_of_lt' (clamp_lt size)] at hsum
  apply UInt32.toNat_inj.1
  show g.stop.toNat = (if _ ≤ s.stop then _ else s.stop).toNat
  simp only [UInt32.le_iff_toNat_le, hsum, hstop]
  split_ifs with hle
  · rw [hsum]
    omega
  · omega

/-! ### The pieces of one range -/

/-- What the pieces of a range are if it is cut into pieces of a width. -/
structure Pieces (s : Span) (width : ℕ) (gs : List Span) : Prop where
  /-- The pieces hold the indices of the range in order. -/
  indices : gs.flatMap Span.indices = s.indices
  nonempty : ∀ g ∈ gs, g.start < g.stop
  consecutive : gs.IsChain fun g h => g.stop = h.start
  full : ∀ g ∈ gs.dropLast, g.indices.length = width
  short : ∀ g ∈ gs, g.indices.length ≤ width

theorem partition_eq_nil (h : ¬ s.start < s.stop) : s.partition size = [] := by
  rw [partition, dif_neg h]

theorem pieces_partition (s : Span) (size : ℕ) : s.Pieces (clamp size) (s.partition size) := by
  by_cases h : s.start ≤ s.stop
  · have htiles := tiles_partition s size h
    refine ⟨htiles.flatMap_indices, fun g hg => htiles.start_lt_stop hg, htiles.isChain, fun g hg => ?_, fun g hg => ?_⟩
    · have hlt := UInt32.lt_iff_toNat_lt.1 (htiles.stop_lt_of_mem_dropLast hg)
      have hstop := (stop_of_mem_partition (List.dropLast_subset _ hg)).2
      rw [length_indices]
      omega
    · have hstop := (stop_of_mem_partition hg).2
      rw [length_indices]
      omega
  · have hlt : s.stop.toNat < s.start.toNat := UInt32.lt_iff_toNat_lt.1 (UInt32.not_le.1 h)
    rw [partition_eq_nil fun hlt => h (UInt32.le_of_lt hlt)]
    refine ⟨?_, by simp, .nil, by simp, by simp⟩
    simp [Span.indices, show s.stop.toNat - s.start.toNat = 0 by omega]

example : (⟨4294967290, 4294967295⟩ : Span).partition 4 =
    [⟨4294967290, 4294967294⟩, ⟨4294967294, 4294967295⟩] := by decide +kernel

/-! ### The number of pieces -/

/-- Pieces of `m` indices without a rest are counted apart. -/
theorem ceil_add {m n c : ℕ} (hc : 0 < c) (hm : c ∣ m) :
    (m + c - 1) / c + (n + c - 1) / c = (m + n + c - 1) / c := by
  obtain ⟨k, rfl⟩ := hm
  have hexact : (c * k + c - 1) / c = k := by
    rw [Nat.add_sub_assoc hc, Nat.mul_add_div hc, Nat.div_eq_of_lt (by omega), Nat.add_zero]
  rw [hexact, show c * k + n + c - 1 = c * k + (n + c - 1) by omega, Nat.mul_add_div hc]

/-- One piece less is left after each one. -/
theorem ceil_step {n c : ℕ} (hn : 0 < n) (hc : 0 < c) : (n + c - 1) / c = (n - min c n + c - 1) / c + 1 := by
  by_cases hle : n ≤ c
  · have hrest : (n - min c n + c - 1) / c = 0 := by
      rw [Nat.min_eq_right hle, Nat.sub_self, Nat.zero_add, Nat.div_eq_of_lt (by omega)]
    have hone : (n + c - 1) / c = 1 := Nat.div_eq_of_lt_le (by omega) (by omega)
    rw [hrest, hone]
  · have hadd := ceil_add (n := n - c) hc (Nat.dvd_refl c)
    have hone : (c + c - 1) / c = 1 := Nat.div_eq_of_lt_le (by omega) (by omega)
    rw [Nat.min_eq_left (by omega)]
    rw [hone, show c + (n - c) + c - 1 = n + c - 1 by omega] at hadd
    omega

theorem length_partition (s : Span) (size : ℕ) :
    (s.partition size).length = (s.stop.toNat - s.start.toNat + clamp size - 1) / clamp size := by
  have hclamp := one_le_clamp size
  induction s using Span.partition.induct size with
  | case1 s hlt middle ih =>
      have hlt' : s.start.toNat < s.stop.toNat := UInt32.lt_iff_toNat_lt.1 hlt
      have hsize : s.stop.toNat < UInt32.size := s.stop.toNat_lt_size
      have hmiddle : (UInt32.ofNat middle).toNat = middle := UInt32.toNat_ofNat_of_lt' (by omega)
      have hrest : s.stop.toNat - middle =
          s.stop.toNat - s.start.toNat - min (clamp size) (s.stop.toNat - s.start.toNat) := by omega
      rw [ceil_step (n := s.stop.toNat - s.start.toNat) (by omega) hclamp, ← hrest]
      rw [partition, dif_pos hlt, List.length_cons, ih]
      show (s.stop.toNat - (UInt32.ofNat middle).toNat + clamp size - 1) / clamp size + 1 = _
      rw [hmiddle]
  | case2 s hnot =>
      have hle : s.stop.toNat ≤ s.start.toNat := UInt32.le_iff_toNat_le.1 (UInt32.not_lt.1 hnot)
      rw [partition_eq_nil hnot, Nat.sub_eq_zero_of_le hle, Nat.zero_add, Nat.div_eq_of_lt (by omega)]
      rfl

/-- Groups of slices that hold them without a rest, or of a single slice, are as many as groups of the range. -/
theorem length_flatMap_partition (s : Span) {outer inner : ℕ}
    (h : clamp inner ∣ clamp outer ∨ s.stop.toNat - s.start.toNat ≤ clamp outer) :
    ((s.partition outer).flatMap (·.partition inner)).length =
      (s.stop.toNat - s.start.toNat + clamp inner - 1) / clamp inner := by
  have hinner := one_le_clamp inner
  induction s using Span.partition.induct outer with
  | case1 s hlt middle ih =>
      have hlt' : s.start.toNat < s.stop.toNat := UInt32.lt_iff_toNat_lt.1 hlt
      have hsize : s.stop.toNat < UInt32.size := s.stop.toNat_lt_size
      have houter := one_le_clamp outer
      have hmiddle : (UInt32.ofNat middle).toNat = middle := UInt32.toNat_ofNat_of_lt' (by omega)
      rw [partition, dif_pos hlt, List.flatMap_cons, List.length_append, length_partition, ih ?_]
      · show ((UInt32.ofNat middle).toNat - s.start.toNat + clamp inner - 1) / clamp inner +
          (s.stop.toNat - (UInt32.ofNat middle).toNat + clamp inner - 1) / clamp inner = _
        rw [hmiddle]
        by_cases hone : s.stop.toNat - s.start.toNat ≤ clamp outer
        · -- The slice is the whole range.
          have hend : middle = s.stop.toNat := by omega
          rw [hend, Nat.sub_self, Nat.zero_add, Nat.div_eq_of_lt (a := clamp inner - 1) (by omega), Nat.add_zero]
        · have hwidth : middle - s.start.toNat = clamp outer := by omega
          have hdvd := h.resolve_right hone
          rw [hwidth, ceil_add hinner hdvd]
          congr 3
          omega
      · refine h.imp_right fun hle => ?_
        show s.stop.toNat - (UInt32.ofNat middle).toNat ≤ clamp outer
        omega
  | case2 s hnot =>
      have hle : s.stop.toNat ≤ s.start.toNat := UInt32.le_iff_toNat_le.1 (UInt32.not_lt.1 hnot)
      rw [partition_eq_nil hnot, Nat.sub_eq_zero_of_le hle, Nat.zero_add, Nat.div_eq_of_lt (by omega)]
      rfl

end Span

/-! ### Groups of slices -/

namespace Batching

variable {batching : Batching} {count : UInt32}

theorem flatMap_indices_groups (batching : Batching) (count : UInt32) :
    (batching.groups count).flatMap Span.indices = (⟨0, count⟩ : Span).indices :=
  (tiles_groups batching count).flatMap_indices

/-- A size that no range exceeds may be cut down to the largest index. -/
theorem ceil_clamp {n size : ℕ} (hn : n < UInt32.size) (hsize : 1 ≤ size) :
    (n + Span.clamp size - 1) / Span.clamp size = (n + size - 1) / size := by
  by_cases hfits : size < UInt32.size
  · rw [Span.clamp_of_fits hsize hfits]
  · have hclamp : Span.clamp size = UInt32.size - 1 := by
      unfold Span.clamp
      simp only [UInt32.size] at hfits ⊢
      omega
    have hpos : 0 < Span.clamp size := Span.one_le_clamp size
    rcases Nat.eq_zero_or_pos n with rfl | hn'
    · rw [Nat.div_eq_of_lt (by omega), Nat.div_eq_of_lt (by omega)]
    · rw [Span.ceil_step hn' hpos, Span.ceil_step hn' hsize, Nat.min_eq_right (by omega), Nat.min_eq_right (by omega),
        Nat.sub_self, Nat.div_eq_of_lt (by omega), Nat.div_eq_of_lt (by omega)]

theorem length_groups (houter : 1 ≤ batching.outerBatchSize) (hgroup : 1 ≤ batching.groupSize)
    (hdvd : batching.groupSize ∣ batching.outerBatchSize) :
    (batching.groups count).length = (count.toNat + batching.groupSize - 1) / batching.groupSize := by
  have hcount := count.toNat_lt_size
  have hone : Span.clamp batching.groupSize ∣ Span.clamp batching.outerBatchSize ∨
      count.toNat - (0 : UInt32).toNat ≤ Span.clamp batching.outerBatchSize := by
    by_cases hfits : batching.outerBatchSize < UInt32.size
    · have hle := Nat.le_of_dvd houter hdvd
      rw [Span.clamp_of_fits houter hfits, Span.clamp_of_fits hgroup (by omega)]
      exact Or.inl hdvd
    · right
      unfold Span.clamp
      omega
  rw [← ceil_clamp hcount hgroup]
  exact Span.length_flatMap_partition ⟨0, count⟩ hone

/-- A range of any bounds that is cut into pieces of any size is cut into consecutive pieces that are not empty and
hold its indices in order.  All but the last are as long as the size, brought between 1 and the largest index, and the
last one is no longer; their ends are the true sums of start and size, or the end of the range, and computing them in
words that stop at the largest index gives the same.  The groups of the slices of all indices below a count hold these
in order, and if slices can be cut into groups without a rest, they are as many as the count has groups. -/
theorem cuts_exactly :
    (∀ (s : Span) (size : ℕ),
      s.Pieces (max 1 (min size (UInt32.size - 1))) (s.partition size) ∧
        ∀ g ∈ s.partition size,
          g.stop.toNat = min (g.start.toNat + max 1 (min size (UInt32.size - 1))) s.stop.toNat ∧
            g.stop = min (saturatingAdd g.start (UInt32.ofNat (max 1 (min size (UInt32.size - 1))))) s.stop) ∧
    ∀ (batching : Batching) (count : UInt32),
      (batching.groups count).flatMap Span.indices = (⟨0, count⟩ : Span).indices ∧
        (1 ≤ batching.outerBatchSize → 1 ≤ batching.groupSize →
          batching.groupSize ∣ batching.outerBatchSize →
            (batching.groups count).length = (count.toNat + batching.groupSize - 1) / batching.groupSize) := by
  refine ⟨fun s size => ⟨s.pieces_partition size, fun g hg => ?_⟩, fun batching count =>
    ⟨flatMap_indices_groups batching count, length_groups⟩⟩
  obtain ⟨hword, hstop⟩ := Span.stop_of_mem_partition hg
  exact ⟨hstop, hword⟩

/-- The usual sizes and 2025 items: three slices, and a last group of half the size. -/
theorem cuts_exactly_standard :
    1 ≤ standard.outerBatchSize ∧ 1 ≤ standard.groupSize ∧ standard.groupSize ∣ standard.outerBatchSize ∧
      (standard.groups 2025).length = 203 ∧ (standard.groups 2025).getLast? = some ⟨2020, 2025⟩ ∧
        ((⟨0, 2025⟩ : Span).partition standard.outerBatchSize).length = 3 ∧
          (⟨0, 2025⟩ : Span).Pieces 1000 ((⟨0, 2025⟩ : Span).partition standard.outerBatchSize) :=
  ⟨by decide, by decide, by decide, (cuts_exactly.2 standard 2025).2 (by decide) (by decide) (by decide),
    by decide +kernel, by decide +kernel, (cuts_exactly.1 ⟨0, 2025⟩ standard.outerBatchSize).1⟩

end Batching

end MintDrop
