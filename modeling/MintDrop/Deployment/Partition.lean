/-!
# Partitions of an index range

Items are written in groups of consecutive indices.  `Span.partition` cuts a range into pieces of a given
size, and `Batching.groups` cuts it into slices and the slices into groups.
-/

namespace MintDrop

/-- The indices from `start` up to, but not including, `stop`. -/
structure Span where
  start : UInt32
  stop : UInt32
  deriving DecidableEq

namespace Span

instance : Membership UInt32 Span := ⟨fun s i => s.start ≤ i ∧ i < s.stop⟩

instance (i : UInt32) (s : Span) : Decidable (i ∈ s) :=
  inferInstanceAs (Decidable (s.start ≤ i ∧ i < s.stop))

/-- The indices in ascending order. -/
def indices (s : Span) : List UInt32 :=
  (List.range' s.start.toNat (s.stop.toNat - s.start.toNat)).map UInt32.ofNat

/-- The last index of a range that is not empty. -/
def last (s : Span) : UInt32 := if s.stop = 0 then 0 else s.stop - 1

/-- A size between 1 and the largest index. -/
def clamp (size : Nat) : Nat := max 1 (min size (UInt32.size - 1))

/-- Consecutive pieces of a size, the last one shorter. -/
def partition (s : Span) (size : Nat) : List Span :=
  if _h : s.start < s.stop then
    let middle := min (s.start.toNat + clamp size) s.stop.toNat
    ⟨s.start, UInt32.ofNat middle⟩ :: partition ⟨UInt32.ofNat middle, s.stop⟩ size
  else []
termination_by s.stop.toNat - s.start.toNat
decreasing_by
  have h₁ : s.start.toNat < s.stop.toNat := UInt32.lt_iff_toNat_lt.1 _h
  have h₂ : s.stop.toNat < UInt32.size := s.stop.toNat_lt_size
  have h₃ : 1 ≤ clamp size := Nat.le_max_left _ _
  rw [UInt32.toNat_ofNat_of_lt' (by omega)]
  omega

end Span

/-- The sizes in which items are written. -/
structure Batching where
  /-- The items of a slice. -/
  outerBatchSize : Nat
  /-- The items of a group, which is written at once. -/
  groupSize : Nat
  /-- The slices that are worked on at the same time. -/
  maxConcurrentSlices : Nat
  deriving DecidableEq

namespace Batching

/-- The usual sizes. -/
def standard : Batching := ⟨1000, 10, 4⟩

/-- The slices of the indices below a count. -/
def slices (b : Batching) (count : UInt32) : List Span := Span.partition ⟨0, count⟩ b.outerBatchSize

/-- The groups of the indices below a count, slice by slice. -/
def groups (b : Batching) (count : UInt32) : List Span :=
  (b.slices count).flatMap (·.partition b.groupSize)

end Batching

end MintDrop
