import MintDrop.Progress.Basic

/-!
# Progress in memory

`MemoryStore` keeps the progress of each slot and counts the saves.
-/

namespace MintDrop

/-- The progress of some slots, the slot saved last first. -/
structure MemoryStore where
  slots : List (Slot × Progress)
  saves : Nat

namespace MemoryStore

/-- A store that holds nothing. -/
def empty : MemoryStore := ⟨[], 0⟩

/-- The progress of a slot. -/
def load (s : MemoryStore) (slot : Slot) : Option Progress := s.slots.lookup slot

/-- The store after the progress of a slot was saved. -/
def save (s : MemoryStore) (slot : Slot) (p : Progress) : MemoryStore where
  slots := (slot, p.stamp slot) :: s.slots.filter (·.1 ≠ slot)
  saves := s.saves + 1

end MemoryStore

end MintDrop
