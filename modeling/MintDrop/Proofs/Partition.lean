import Mathlib.Data.List.Pairwise
import Mathlib.Tactic.Common
import MintDrop.Deployment.Partition

/-!
# Tilings of an index range

The pieces of `Span.partition`, and the groups of `Batching.groups`, tile the range that is cut: they are not
empty and follow one another from its start to its end (`tiles_partition`, `tiles_groups`).  So they are in
ascending order (`Tiles.pairwise`), and every index lies in just one of them (`Tiles.exists_mem`,
`Tiles.eq_of_mem`).
-/

namespace MintDrop

/-- Ranges that are not empty and follow one another from one index up to another. -/
inductive Tiles : UInt32 → List Span → UInt32 → Prop
  | nil (a : UInt32) : Tiles a [] a
  | cons {g : Span} {gs : List Span} {b : UInt32} :
      g.start < g.stop → Tiles g.stop gs b → Tiles g.start (g :: gs) b

/-! ### Cutting -/

theorem tiles_partition (s : Span) (size : ℕ) (h : s.start ≤ s.stop) :
    Tiles s.start (s.partition size) s.stop := by
  induction s using Span.partition.induct size with
  | case1 s hlt middle ih =>
      have hlt' : s.start.toNat < s.stop.toNat := UInt32.lt_iff_toNat_lt.1 hlt
      have hsize : s.stop.toNat < UInt32.size := s.stop.toNat_lt_size
      have hclamp : 1 ≤ Span.clamp size := Nat.le_max_left _ _
      have hmiddle : (UInt32.ofNat middle).toNat = middle :=
        UInt32.toNat_ofNat_of_lt' (by omega)
      rw [Span.partition, dif_pos hlt]
      refine Tiles.cons (g := ⟨s.start, UInt32.ofNat middle⟩) (UInt32.lt_iff_toNat_lt.2 ?_)
        (ih (UInt32.le_iff_toNat_le.2 ?_))
      · change s.start.toNat < (UInt32.ofNat middle).toNat
        omega
      · change (UInt32.ofNat middle).toNat ≤ s.stop.toNat
        omega
  | case2 s hnot =>
      obtain ⟨a, b⟩ := s
      obtain rfl : a = b := UInt32.le_antisymm h (UInt32.not_lt.1 hnot)
      rw [Span.partition, dif_neg hnot]
      exact .nil a

theorem Tiles.le {a b : UInt32} {gs : List Span} (h : Tiles a gs b) : a ≤ b := by
  induction h with
  | nil => exact UInt32.le_refl _
  | cons hg _ ih => exact UInt32.le_trans (UInt32.le_of_lt hg) ih

theorem Tiles.append {a b c : UInt32} {gs hs : List Span} (h₁ : Tiles a gs b) (h₂ : Tiles b hs c) :
    Tiles a (gs ++ hs) c := by
  induction h₁ with
  | nil => exact h₂
  | cons hg _ ih => exact .cons hg (ih h₂)

/-- Tilings of the pieces of a tiling make a tiling. -/
theorem Tiles.flatMap {a b : UInt32} {ss : List Span} {cut : Span → List Span} (h : Tiles a ss b)
    (hcut : ∀ s, s.start < s.stop → Tiles s.start (cut s) s.stop) : Tiles a (ss.flatMap cut) b := by
  induction h with
  | nil => exact .nil _
  | cons hg _ ih =>
      rw [List.flatMap_cons]
      exact (hcut _ hg).append ih

theorem tiles_groups (batching : Batching) (count : UInt32) : Tiles 0 (batching.groups count) count := by
  refine (tiles_partition ⟨0, count⟩ batching.outerBatchSize UInt32.zero_le).flatMap fun s hs => ?_
  exact tiles_partition s batching.groupSize (UInt32.le_of_lt hs)

/-! ### Members of a tiling -/

namespace Tiles

variable {a b : UInt32} {gs : List Span} {g : Span}

theorem bounds (h : Tiles a gs b) (hg : g ∈ gs) : a ≤ g.start ∧ g.start < g.stop ∧ g.stop ≤ b := by
  induction h with
  | nil => simp at hg
  | cons hfirst htail ih =>
      rcases List.mem_cons.1 hg with rfl | hg
      · exact ⟨UInt32.le_refl _, hfirst, htail.le⟩
      · obtain ⟨hlow, hne, hhigh⟩ := ih hg
        exact ⟨UInt32.le_trans (UInt32.le_of_lt hfirst) hlow, hne, hhigh⟩

theorem lt_of_mem (h : Tiles a gs b) (hg : g ∈ gs) {i : UInt32} (hi : i ∈ g) : i < b :=
  UInt32.lt_of_lt_of_le hi.2 (h.bounds hg).2.2

theorem start_lt_stop (h : Tiles a gs b) (hg : g ∈ gs) : g.start < g.stop := (h.bounds hg).2.1

theorem pairwise (h : Tiles a gs b) : gs.Pairwise fun x y => x.stop ≤ y.start := by
  induction h with
  | nil => exact .nil
  | cons _ htail ih => exact .cons (fun y hy => (htail.bounds hy).1) ih

/-- The pieces begin at ascending indices. -/
theorem pairwise_start (h : Tiles a gs b) : gs.Pairwise fun x y => x.start < y.start :=
  h.pairwise.imp_of_mem fun hx _ hxy => UInt32.lt_of_lt_of_le (h.start_lt_stop hx) hxy

theorem nodup (h : Tiles a gs b) : gs.Nodup := by
  refine h.pairwise_start.imp ?_
  rintro x y hlt rfl
  exact UInt32.lt_irrefl _ hlt

theorem exists_mem (h : Tiles a gs b) {i : UInt32} (ha : a ≤ i) (hb : i < b) : ∃ g ∈ gs, i ∈ g := by
  induction h with
  | nil => exact absurd hb (UInt32.not_lt.2 ha)
  | @cons g gs b _ _ ih =>
      by_cases hi : i < g.stop
      · exact ⟨g, List.mem_cons_self, ha, hi⟩
      · obtain ⟨x, hx, hmem⟩ := ih (UInt32.not_lt.1 hi) hb
        exact ⟨x, List.mem_cons_of_mem _ hx, hmem⟩

/-- No index lies in two pieces. -/
theorem eq_of_mem (h : Tiles a gs b) {x y : Span} (hx : x ∈ gs) (hy : y ∈ gs) {i : UInt32} (hix : i ∈ x)
    (hiy : i ∈ y) : x = y := by
  by_contra hne
  have hapart : ∀ u ∈ gs, ∀ v ∈ gs, u.stop ≤ v.start → i ∈ u → i ∈ v → False :=
    fun u _ v _ huv hu hv =>
      UInt32.lt_irrefl i (UInt32.lt_of_lt_of_le hu.2 (UInt32.le_trans huv hv.1))
  rcases List.pairwise_iff_getElem.1 h.pairwise with hp
  obtain ⟨m, hm, rfl⟩ := List.mem_iff_getElem.1 hx
  obtain ⟨n, hn, rfl⟩ := List.mem_iff_getElem.1 hy
  rcases Nat.lt_trichotomy m n with hlt | rfl | hlt
  · exact hapart _ hx _ hy (hp m n hm hn hlt) hix hiy
  · exact hne rfl
  · exact hapart _ hy _ hx (hp n m hn hm hlt) hiy hix

/-- A piece is known by the index at which it starts. -/
theorem eq_of_start (h : Tiles a gs b) {x y : Span} (hx : x ∈ gs) (hy : y ∈ gs) (hstart : x.start = y.start) :
    x = y :=
  h.eq_of_mem hx hy ⟨UInt32.le_refl _, h.start_lt_stop hx⟩ ⟨hstart ▸ UInt32.le_refl _, hstart ▸ h.start_lt_stop hy⟩

end Tiles

/-! ### Sizes of the pieces -/

/-- Each piece begins a number of sizes behind the start, and is of the size if it is not the last one. -/
theorem exists_of_mem_partition {s g : Span} {size : ℕ} (hg : g ∈ s.partition size) :
    ∃ k, g.start.toNat = s.start.toNat + k * Span.clamp size ∧
      g.stop.toNat = min (g.start.toNat + Span.clamp size) s.stop.toNat := by
  induction s using Span.partition.induct size with
  | case1 s hlt middle ih =>
      have hsize : s.stop.toNat < UInt32.size := s.stop.toNat_lt_size
      have hmiddle : (UInt32.ofNat middle).toNat = middle := UInt32.toNat_ofNat_of_lt' (by omega)
      rw [Span.partition, dif_pos hlt] at hg
      rcases List.mem_cons.1 hg with rfl | hg
      · exact ⟨0, by simp, hmiddle⟩
      · obtain ⟨k, hstart, hstop⟩ := ih hg
        have hnext : UInt32.ofNat middle < s.stop := by
          by_contra hend
          rw [Span.partition, dif_neg hend] at hg
          cases hg
        have hlt' : middle < s.stop.toNat := hmiddle ▸ UInt32.lt_iff_toNat_lt.1 hnext
        refine ⟨k + 1, ?_, hstop⟩
        rw [hstart, hmiddle, Nat.succ_mul]
        omega
  | case2 s hnot =>
      rw [Span.partition, dif_neg hnot] at hg
      cases hg

theorem Span.clamp_le (size : ℕ) : Span.clamp size ≤ max size 1 := by
  unfold Span.clamp
  omega

theorem length_le_of_mem_groups {batching : Batching} {count : UInt32} {g : Span} (hg : g ∈ batching.groups count) :
    g.stop.toNat - g.start.toNat ≤ max batching.groupSize 1 := by
  obtain ⟨s, -, hg⟩ := List.mem_flatMap.1 hg
  obtain ⟨-, -, hstop⟩ := exists_of_mem_partition hg
  have hclamp := Span.clamp_le batching.groupSize
  omega

/-- No group reaches from one slice into the next one. -/
theorem exists_slice_of_mem_groups {batching : Batching} {count : UInt32} {g : Span}
    (hg : g ∈ batching.groups count) :
    ∃ k, k * max batching.outerBatchSize 1 ≤ g.start.toNat ∧
      g.stop.toNat ≤ (k + 1) * max batching.outerBatchSize 1 := by
  obtain ⟨s, hs, hg'⟩ := List.mem_flatMap.1 hg
  obtain ⟨-, hne, hcount⟩ := (tiles_partition ⟨0, count⟩ batching.outerBatchSize UInt32.zero_le).bounds hs
  obtain ⟨hlow, -, hhigh⟩ := (tiles_partition s batching.groupSize (UInt32.le_of_lt hne)).bounds hg'
  rw [UInt32.le_iff_toNat_le] at hcount hlow hhigh
  by_cases hsmall : batching.outerBatchSize < UInt32.size
  · have hclamp : Span.clamp batching.outerBatchSize = max batching.outerBatchSize 1 := by
      unfold Span.clamp
      omega
    obtain ⟨k, hstart, hstop⟩ := exists_of_mem_partition hs
    rw [hclamp] at hstart hstop
    change s.start.toNat = 0 + _ at hstart
    refine ⟨k, by omega, ?_⟩
    rw [Nat.succ_mul]
    omega
  · -- A slice of such a size holds all indices.
    have hsize : count.toNat < UInt32.size := count.toNat_lt_size
    change s.stop.toNat ≤ count.toNat at hcount
    refine ⟨0, by omega, ?_⟩
    omega

/-! ### Indices of a range -/

theorem Span.length_indices (s : Span) : s.indices.length = s.stop.toNat - s.start.toNat := by
  simp [Span.indices]

theorem Span.getElem_indices (s : Span) {k : ℕ} (h : k < s.indices.length) :
    s.indices[k] = UInt32.ofNat (s.start.toNat + k) := by
  simp [Span.indices]

theorem Span.mem_indices {s : Span} {i : UInt32} : i ∈ s.indices ↔ i ∈ s := by
  have hsize : s.stop.toNat < UInt32.size := s.stop.toNat_lt_size
  have hspan : i ∈ s ↔ s.start.toNat ≤ i.toNat ∧ i.toNat < s.stop.toNat := by
    rw [← UInt32.le_iff_toNat_le, ← UInt32.lt_iff_toNat_lt]
    rfl
  rw [hspan, Span.indices, List.mem_map]
  constructor
  · rintro ⟨n, hn, rfl⟩
    rw [List.mem_range'_1] at hn
    rw [UInt32.toNat_ofNat_of_lt' (by omega)]
    omega
  · rintro ⟨hlow, hhigh⟩
    refine ⟨i.toNat, List.mem_range'_1.2 ⟨hlow, by omega⟩, UInt32.ofNat_toNat⟩

/-- The last index belongs to a range that is not empty, and no later one does. -/
theorem Span.le_last_iff {s : Span} (h : s.start < s.stop) {i : UInt32} : i ≤ s.last ↔ i < s.stop := by
  have hlt : s.start.toNat < s.stop.toNat := UInt32.lt_iff_toNat_lt.1 h
  have hne : s.stop ≠ 0 := by
    intro h0
    simp [h0] at hlt
  have hone : (1 : UInt32) ≤ s.stop := by
    rw [UInt32.le_iff_toNat_le]
    change 1 ≤ s.stop.toNat
    omega
  rw [Span.last, if_neg hne, UInt32.le_iff_toNat_le, UInt32.lt_iff_toNat_lt, UInt32.toNat_sub_of_le _ _ hone]
  change i.toNat ≤ s.stop.toNat - 1 ↔ _
  omega

theorem Span.mem_iff_le_last {s : Span} (h : s.start < s.stop) {i : UInt32} :
    s.start ≤ i ∧ i ≤ s.last ↔ i ∈ s := by
  rw [Span.le_last_iff h]
  rfl

end MintDrop
