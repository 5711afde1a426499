import MintDrop.Entries

/-!
# The items of a drop

`Items` are the items of a drop by index, kept in ascending order without repetition, so that two
collections with the same entries are equal (`Items.ext`).  `Items.markOnChain` records a range of
indices as written to the ledger.  The view of the items is `Items.get?`; `get?_insert`, `get?_erase` and
`get?_markOnChain` say what each change does to it, and it determines the items (`ext_get?`).
-/

namespace MintDrop

/-- An item of a drop. -/
structure Item where
  name : String
  uri : String
  /-- Whether its line was written to the record. -/
  onChain : Bool
  /-- Whether the written line is still to be checked. -/
  verifyRun : Bool
  deriving DecidableEq

/-- An item that was not written yet. -/
def Item.fresh (name uri : String) : Item := ⟨name, uri, false, false⟩

/-- The item once its line is known to be written; it needs no check any more. -/
def Item.written (item : Item) : Item := { item with onChain := true, verifyRun := false }

/-- The items of a drop by index. -/
structure Items where
  entries : List (UInt32 × Item)
  ascending : Entries.Ascending entries

namespace Items

theorem ext {a b : Items} (h : a.entries = b.entries) : a = b := by
  cases a; cases b; cases h; rfl

instance : DecidableEq Items := fun a b =>
  if h : a.entries = b.entries then isTrue (ext h) else isFalse fun e => h (e ▸ rfl)

/-- No items. -/
def empty : Items := ⟨[], List.Pairwise.nil⟩

instance : Inhabited Items := ⟨empty⟩

/-- The number of items. -/
def size (items : Items) : Nat := items.entries.length

/-! ### Looking up -/

/-- The item at an index. -/
def get? (items : Items) (index : UInt32) : Option Item := items.entries.lookup index

/-- Whether there is an item at an index. -/
def contains (items : Items) (index : UInt32) : Bool := (items.get? index).isSome

/-- Whether the item at an index was written to the record. -/
def isOnChain (items : Items) (index : UInt32) : Bool := (items.get? index).any (·.onChain)

/-- The number of items that were written to the record. -/
def onChainCount (items : Items) : Nat := items.entries.countP (·.2.onChain)

/-! ### Changing -/

/-- The items with one put at an index. -/
def insert (items : Items) (index : UInt32) (item : Item) : Items :=
  ⟨Entries.insert index item items.entries, Entries.ascending_insert index item items.ascending⟩

/-- The items without the one at an index. -/
def erase (items : Items) (index : UInt32) : Items :=
  ⟨items.entries.filter (·.1 ≠ index), items.ascending.filter _⟩

/-- The items of a list of entries, of which the later ones win. -/
def ofList (entries : List (UInt32 × Item)) : Items := ⟨Entries.ofList entries, Entries.ascending_ofList entries⟩

/-- The items with each one changed by a function of its index and itself. -/
def map (items : Items) (f : UInt32 → Item → Item) : Items where
  entries := items.entries.map fun e => (e.1, f e.1 e.2)
  ascending := by simpa [Entries.Ascending, List.pairwise_map] using items.ascending

/-- The items from index `first` to `last` recorded as written. -/
def markOnChain (items : Items) (first last : UInt32) : Items :=
  items.map fun index item => if first ≤ index ∧ index ≤ last then item.written else item

/-! ### What changes do to a look-up -/

theorem get?_insert (items : Items) (index i : UInt32) (item : Item) :
    (items.insert index item).get? i = if i = index then some item else items.get? i :=
  Entries.lookup_insert index i item items.entries

theorem get?_erase (items : Items) (index i : UInt32) :
    (items.erase index).get? i = if i = index then none else items.get? i :=
  Entries.lookup_filter_ne index i items.entries

theorem get?_map (items : Items) (f : UInt32 → Item → Item) (i : UInt32) :
    (items.map f).get? i = (items.get? i).map (f i) :=
  Entries.lookup_map f i items.entries

theorem get?_markOnChain (items : Items) (first last i : UInt32) :
    (items.markOnChain first last).get? i =
      (items.get? i).map fun item => if first ≤ i ∧ i ≤ last then item.written else item :=
  get?_map items _ i

/-- Items with the same look-ups are equal. -/
theorem ext_get? {a b : Items} (h : ∀ i, a.get? i = b.get? i) : a = b :=
  ext (Entries.eq_of_lookup_eq a.ascending b.ascending h)

end Items

end MintDrop
