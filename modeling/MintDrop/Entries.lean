/-!
# Entries by index

Lists of entries in ascending order of their indices.  `Entries.insert` puts an entry at its place, and
`Entries.ofList` makes such a list of any one, in which the last entry of an index counts (`lookup_ofList`).  Two lists
in ascending order with the same look-ups are equal (`eq_of_lookup_eq`).
-/

namespace MintDrop.Entries

variable {α β : Type}

/-- Entries in strictly ascending order of their indices. -/
def Ascending (entries : List (UInt32 × α)) : Prop := entries.Pairwise fun a b => a.1 < b.1

/-! ### Insertion -/

/-- Entries with one put at its place, instead of the one with its index. -/
def insert (index : UInt32) (value : α) : List (UInt32 × α) → List (UInt32 × α)
  | [] => [(index, value)]
  | (i, x) :: rest =>
      if index < i then (index, value) :: (i, x) :: rest
      else if i < index then (i, x) :: insert index value rest
      else (index, value) :: rest

theorem mem_insert {index : UInt32} {value : α} {entries : List (UInt32 × α)}
    {e : UInt32 × α} (h : e ∈ insert index value entries) :
    e = (index, value) ∨ e ∈ entries := by
  induction entries with
  | nil => exact Or.inl (by simpa [insert] using h)
  | cons head rest ih =>
      obtain ⟨i, x⟩ := head
      simp only [insert] at h
      split at h
      · simpa using h
      · split at h
        · rcases List.mem_cons.1 h with h | h
          · exact Or.inr (by simp [h])
          · rcases ih h with h | h
            · exact Or.inl h
            · exact Or.inr (List.mem_cons_of_mem _ h)
        · rcases List.mem_cons.1 h with h | h
          · exact Or.inl h
          · exact Or.inr (List.mem_cons_of_mem _ h)

theorem ascending_insert (index : UInt32) (value : α) {entries : List (UInt32 × α)}
    (h : Ascending entries) : Ascending (insert index value entries) := by
  induction entries with
  | nil => simp [insert, Ascending]
  | cons head rest ih =>
      obtain ⟨i, x⟩ := head
      obtain ⟨hhead, hrest⟩ := List.pairwise_cons.1 h
      simp only [insert]
      split
      · rename_i hlt
        refine List.pairwise_cons.2 ⟨fun e he => ?_, h⟩
        rcases List.mem_cons.1 he with rfl | he
        · exact hlt
        · exact UInt32.lt_trans hlt (hhead e he)
      · split
        · rename_i hgt
          refine List.pairwise_cons.2 ⟨fun e he => ?_, ih hrest⟩
          rcases mem_insert he with rfl | he
          · exact hgt
          · exact hhead e he
        · rename_i hle hge
          have hi : i = index := UInt32.le_antisymm (UInt32.not_lt.1 hle) (UInt32.not_lt.1 hge)
          exact List.pairwise_cons.2 ⟨fun e he => hi ▸ hhead e he, hrest⟩

/-! ### Looking up -/

section Keys

variable {κ : Type} [BEq κ] [LawfulBEq κ] [DecidableEq κ]

theorem lookup_cons (i j : κ) (x : α) (rest : List (κ × α)) :
    ((j, x) :: rest).lookup i = if i = j then some x else rest.lookup i := by
  by_cases h : i = j
  · simp [h]
  · have hb : (i == j) = false := beq_eq_false_iff_ne.2 h
    simp [List.lookup_cons, hb, h]

theorem lookup_filter_ne (index i : κ) (entries : List (κ × α)) :
    (entries.filter (·.1 ≠ index)).lookup i = if i = index then none else entries.lookup i := by
  induction entries with
  | nil => simp
  | cons head rest ih =>
      obtain ⟨j, x⟩ := head
      by_cases hj : j = index
      · subst hj
        rw [List.filter_cons_of_neg (by simp), ih, lookup_cons]
        by_cases h : i = j <;> simp [h]
      · rw [List.filter_cons_of_pos (by simpa using hj), lookup_cons, ih, lookup_cons]
        by_cases h : i = index
        · subst h
          simp [Ne.symm hj]
        · simp [h]

/-- An entry instead of all those with its index. -/
theorem lookup_replace (index i : κ) (x : α) (entries : List (κ × α)) :
    ((index, x) :: entries.filter (·.1 ≠ index)).lookup i = if i = index then some x else entries.lookup i := by
  rw [lookup_cons, lookup_filter_ne]
  by_cases h : i = index
  · rw [if_pos h, if_pos h]
  · rw [if_neg h, if_neg h, if_neg h]

end Keys

theorem lookup_insert (index i : UInt32) (value : α) (entries : List (UInt32 × α)) :
    (insert index value entries).lookup i = if i = index then some value else entries.lookup i := by
  induction entries with
  | nil => exact lookup_cons i index value []
  | cons head rest ih =>
      obtain ⟨j, x⟩ := head
      simp only [insert]
      split
      · rw [lookup_cons]
      · split
        · rename_i hlt
          have hne : index ≠ j := fun h => UInt32.lt_irrefl j (h ▸ hlt)
          by_cases h : i = index
          · subst h
            simp [lookup_cons, hne, ih]
          · simp [lookup_cons, h, ih]
        · rename_i hle hge
          have hj : j = index := UInt32.le_antisymm (UInt32.not_lt.1 hle) (UInt32.not_lt.1 hge)
          by_cases h : i = index <;> simp [lookup_cons, h, hj]

theorem lookup_map (f : UInt32 → α → β) (i : UInt32) (entries : List (UInt32 × α)) :
    (entries.map fun e => (e.1, f e.1 e.2)).lookup i = (entries.lookup i).map (f i) := by
  induction entries with
  | nil => rfl
  | cons head rest ih =>
      obtain ⟨j, x⟩ := head
      rw [List.map_cons, lookup_cons, lookup_cons, ih]
      by_cases h : i = j <;> simp [h]

/-! ### Lists in any order -/

/-- The entries of a list in ascending order, the last one of each index. -/
def ofList (entries : List (UInt32 × α)) : List (UInt32 × α) :=
  entries.foldl (fun sorted e => insert e.1 e.2 sorted) []

theorem ascending_foldl_insert (entries : List (UInt32 × α)) {sorted : List (UInt32 × α)} (h : Ascending sorted) :
    Ascending (entries.foldl (fun sorted e => insert e.1 e.2 sorted) sorted) := by
  induction entries generalizing sorted with
  | nil => exact h
  | cons e entries ih => exact ih (ascending_insert e.1 e.2 h)

theorem ascending_ofList (entries : List (UInt32 × α)) : Ascending (ofList entries) :=
  ascending_foldl_insert entries List.Pairwise.nil

theorem lookup_foldl_insert (entries sorted : List (UInt32 × α)) (i : UInt32) :
    (entries.foldl (fun sorted e => insert e.1 e.2 sorted) sorted).lookup i =
      (entries.reverse.lookup i).or (sorted.lookup i) := by
  induction entries generalizing sorted with
  | nil => rfl
  | cons e entries ih =>
      obtain ⟨j, x⟩ := e
      rw [List.foldl_cons, ih, List.reverse_cons, List.lookup_append, Option.or_assoc, lookup_insert, lookup_cons]
      by_cases h : i = j <;> simp [h]

/-- Of the entries of an index the last one counts. -/
theorem lookup_ofList (entries : List (UInt32 × α)) (i : UInt32) :
    (ofList entries).lookup i = entries.reverse.lookup i := by
  rw [ofList, lookup_foldl_insert, List.lookup_nil, Option.or_none]

theorem insert_last {index : UInt32} {value : α} {entries : List (UInt32 × α)} (h : ∀ e ∈ entries, e.1 < index) :
    insert index value entries = entries ++ [(index, value)] := by
  induction entries with
  | nil => rfl
  | cons e entries ih =>
      obtain ⟨i, x⟩ := e
      obtain ⟨hlt, hentries⟩ := List.forall_mem_cons.1 h
      rw [insert, if_neg (UInt32.lt_asymm hlt), if_pos hlt, ih hentries, List.cons_append]

/-- Entries in ascending order are put behind one another. -/
theorem foldl_insert_of_ascending (entries sorted : List (UInt32 × α)) (h : Ascending (sorted ++ entries)) :
    entries.foldl (fun sorted e => insert e.1 e.2 sorted) sorted = sorted ++ entries := by
  induction entries generalizing sorted with
  | nil => exact (List.append_nil _).symm
  | cons e entries ih =>
      have hbefore : ∀ e' ∈ sorted, e'.1 < e.1 := fun e' he' =>
        (List.pairwise_append.1 h).2.2 e' he' e List.mem_cons_self
      rw [List.append_cons] at h ⊢
      rw [List.foldl_cons, insert_last hbefore, ih _ h]

theorem ofList_of_ascending {entries : List (UInt32 × α)} (h : Ascending entries) : ofList entries = entries :=
  foldl_insert_of_ascending entries [] h

/-! ### Equal look-ups -/

theorem lookup_eq_none {i : UInt32} {entries : List (UInt32 × α)} (h : ∀ e ∈ entries, i < e.1) :
    entries.lookup i = none := by
  induction entries with
  | nil => rfl
  | cons head rest ih =>
      obtain ⟨j, x⟩ := head
      obtain ⟨hlt, hrest⟩ := List.forall_mem_cons.1 h
      rw [lookup_cons, if_neg (UInt32.ne_of_lt hlt), ih hrest]

/-- Of two lists of entries with the same look-ups, the first entry of the one is that of the other. -/
theorem not_lt_of_lookup_eq {i j : UInt32} {x : α} {entries rest : List (UInt32 × α)} {y : α}
    (hrest : Ascending ((j, y) :: rest))
    (h : ((i, x) :: entries).lookup i = ((j, y) :: rest).lookup i) : ¬ i < j := by
  intro hlt
  have hnone : ((j, y) :: rest).lookup i = none := by
    refine lookup_eq_none (List.forall_mem_cons.2 ⟨hlt, fun e he => ?_⟩)
    exact UInt32.lt_trans hlt ((List.pairwise_cons.1 hrest).1 e he)
  rw [hnone, lookup_cons, if_pos rfl] at h
  cases h

theorem eq_of_lookup_eq {a b : List (UInt32 × α)} (ha : Ascending a) (hb : Ascending b)
    (h : ∀ i, a.lookup i = b.lookup i) : a = b := by
  induction a generalizing b with
  | nil =>
      cases b with
      | nil => rfl
      | cons head rest =>
          have := h head.1
          rw [lookup_cons, if_pos rfl] at this
          cases this
  | cons head a ih =>
      obtain ⟨i, x⟩ := head
      cases b with
      | nil =>
          have := h i
          rw [lookup_cons, if_pos rfl] at this
          cases this
      | cons head' b =>
          obtain ⟨j, y⟩ := head'
          obtain rfl : i = j := UInt32.le_antisymm (UInt32.not_lt.1 (not_lt_of_lookup_eq ha (h j).symm))
            (UInt32.not_lt.1 (not_lt_of_lookup_eq hb (h i)))
          obtain ⟨hia, ha'⟩ := List.pairwise_cons.1 ha
          obtain ⟨hib, hb'⟩ := List.pairwise_cons.1 hb
          have hxy := h i
          rw [lookup_cons, lookup_cons, if_pos rfl, if_pos rfl] at hxy
          obtain rfl := Option.some.inj hxy
          refine congrArg _ (ih ha' hb' fun k => ?_)
          by_cases hk : k = i
          · rw [hk, lookup_eq_none hia, lookup_eq_none hib]
          · have := h k
            rwa [lookup_cons, lookup_cons, if_neg hk, if_neg hk] at this

end MintDrop.Entries
