import MintDrop.Deployment.Upload
import MintDrop.Proofs.Record.Lines

/-!
# The steps of one group

What `Upload.begin` comes to (`begin_eq_ok`, `begin_eq_error`): it reads nothing but the items of its group
(`begin_congr`), and its transaction writes just their lines (`writes_begin_iff`).  `Upload.mark` changes the marks
of its group and nothing else (`get?_mark`).
-/

namespace MintDrop

/-- The line of the item at an index. -/
def Progress.line? (p : Progress) (i : UInt32) : Option Line := (p.items.get? i).map Upload.line

theorem Items.exists_get?_of_isOnChain {items : Items} {i : UInt32} (h : items.isOnChain i) :
    ∃ item, items.get? i = some item := by
  cases hget : items.get? i with
  | none =>
      rw [Items.isOnChain, hget] at h
      cases h
  | some item => exact ⟨item, rfl⟩

theorem Items.contains_of_isOnChain {items : Items} {i : UInt32} (h : items.isOnChain i) : items.contains i := by
  obtain ⟨item, hitem⟩ := Items.exists_get?_of_isOnChain h
  exact Option.isSome_iff_exists.2 ⟨item, hitem⟩

namespace Upload

variable {site : Site} {p q : Progress} {g : Span} {tx : Transaction}

/-! ### The first step -/

/-- A group is submitted if an item of it is not marked, all are there and their lines can be encoded. -/
theorem begin_eq_ok (h : begin site p g = .ok tx) :
    ¬ (∀ i ∈ g, p.items.isOnChain i) ∧ ∃ items instruction, g.indices.mapM p.items.get? = some items ∧
      Record.addLines site.program site.record site.authority.address g.start (items.map line)
        = .ok instruction ∧
      tx = ⟨site.authority.address, [site.authority], [instruction]⟩ := by
  unfold begin at h
  split_ifs at h with hall
  refine ⟨fun hmarked => hall (List.all_eq_true.2 fun i hi => hmarked i (Span.mem_indices.1 hi)), ?_⟩
  split at h
  · cases h
  · rename_i items hitems
    split at h
    · cases h
    · rename_i instruction hinstruction
      exact ⟨items, instruction, hitems, hinstruction, (Except.ok.inj h).symm⟩

/-- A group that ends with its first step was skipped, has an item that is not there, or has lines that
cannot be encoded. -/
theorem begin_eq_error {outcome : Outcome} (h : begin site p g = .error outcome) :
    (outcome = .skipped ∧ ∀ i ∈ g, p.items.isOnChain i) ∨
      (outcome = .failed ⟨g, .unlisted⟩ ∧ g.indices.mapM p.items.get? = none) ∨
      ∃ items e, outcome = .failed ⟨g, .ledger e⟩ ∧ g.indices.mapM p.items.get? = some items ∧
        Record.addLines site.program site.record site.authority.address g.start (items.map line)
          = .error e := by
  unfold begin at h
  split_ifs at h with hall
  · refine Or.inl ⟨(Except.error.inj h).symm, fun i hi => ?_⟩
    exact List.all_eq_true.1 hall i (Span.mem_indices.2 hi)
  · right
    split at h
    · rename_i hitems
      exact Or.inl ⟨(Except.error.inj h).symm, hitems⟩
    · rename_i items hitems
      split at h
      · rename_i e he
        exact Or.inr ⟨items, e, (Except.error.inj h).symm, hitems, he⟩
      · cases h

theorem begin_eq_skipped (h : ∀ i ∈ g, p.items.isOnChain i) : begin site p g = .error .skipped := by
  rw [begin, if_pos]
  exact List.all_eq_true.2 fun i hi => h i (Span.mem_indices.1 hi)

theorem mapM_congr {α β : Type} {f f' : α → Option β} {xs : List α} (h : ∀ x ∈ xs, f x = f' x) :
    xs.mapM f = xs.mapM f' := by
  induction xs with
  | nil => rfl
  | cons x xs ih =>
      rw [List.mapM_cons, List.mapM_cons, h x List.mem_cons_self,
        ih fun y hy => h y (List.mem_cons_of_mem x hy)]

theorem exists_mapM {α β : Type} {f : α → Option β} {P : β → Prop} {xs : List α}
    (h : ∀ x ∈ xs, ∃ y, f x = some y ∧ P y) :
    ∃ ys, xs.mapM f = some ys ∧ ys.length = xs.length ∧ ∀ y ∈ ys, P y := by
  induction xs with
  | nil => exact ⟨[], rfl, rfl, fun _ hy => absurd hy List.not_mem_nil⟩
  | cons x xs ih =>
      obtain ⟨⟨y, hy, hP⟩, hxs⟩ := List.forall_mem_cons.1 h
      obtain ⟨ys, hys, hlength, hall⟩ := ih hxs
      refine ⟨y :: ys, ?_, congrArg (· + 1) hlength, List.forall_mem_cons.2 ⟨hP, hall⟩⟩
      rw [List.mapM_cons, hy, hys]
      rfl

theorem begin_congr (h : ∀ i ∈ g, p.items.get? i = q.items.get? i) : begin site p g = begin site q g := by
  have hget : ∀ i ∈ g.indices, p.items.get? i = q.items.get? i := fun i hi => h i (Span.mem_indices.1 hi)
  have hmarks : g.indices.all p.items.isOnChain = g.indices.all q.items.isOnChain := by
    rw [Bool.eq_iff_iff, List.all_eq_true, List.all_eq_true]
    refine forall₂_congr fun i hi => ?_
    rw [Items.isOnChain, Items.isOnChain, hget i hi]
  have hitems : g.indices.mapM p.items.get? = g.indices.mapM q.items.get? := mapM_congr hget
  unfold begin
  rw [hmarks, hitems]

theorem map_some_of_mapM {α β : Type} {f : α → Option β} {xs : List α} {ys : List β} (h : xs.mapM f = some ys) :
    ys.map some = xs.map f := by
  induction xs generalizing ys with
  | nil =>
      obtain rfl : [] = ys := Option.some.inj h
      rfl
  | cons x xs ih =>
      rw [List.mapM_cons] at h
      obtain ⟨y, hy, h⟩ := Option.bind_eq_some_iff.1 h
      obtain ⟨rest, hrest, h⟩ := Option.bind_eq_some_iff.1 h
      obtain rfl : y :: rest = ys := Option.some.inj h
      rw [List.map_cons, List.map_cons, hy, ih hrest]

theorem getElem?_of_mapM {α β : Type} {f : α → Option β} {xs : List α} {ys : List β}
    (h : xs.mapM f = some ys) (k : ℕ) : ys[k]? = xs[k]?.bind f := by
  have hk : (ys.map some)[k]? = (xs.map f)[k]? := by rw [map_some_of_mapM h]
  rw [List.getElem?_map, List.getElem?_map] at hk
  cases hx : xs[k]? <;> cases hy : ys[k]? <;> simp_all

/-- The transaction of a group writes the lines of the items of the group, and to its record only. -/
theorem lineAt?_begin (h : begin site p g = .ok tx) :
    ∃ instruction, tx.instructions = [instruction] ∧ ∀ account i,
      Record.lineAt? instruction account i = if site.record = account ∧ i ∈ g then p.line? i else none := by
  obtain ⟨-, items, instruction, hitems, hinstruction, rfl⟩ := begin_eq_ok h
  refine ⟨instruction, rfl, fun account i => ?_⟩
  have hsize : g.stop.toNat < UInt32.size := g.stop.toNat_lt_size
  have hmem : i ∈ g ↔ g.start.toNat ≤ i.toNat ∧ i.toNat < g.stop.toNat := by
    rw [← UInt32.le_iff_toNat_le, ← UInt32.lt_iff_toNat_lt]
    rfl
  rw [Record.lineAt?_addLines hinstruction, List.getElem?_map, getElem?_of_mapM hitems]
  by_cases hstart : g.start ≤ i
  · have hle : g.start.toNat ≤ i.toNat := UInt32.le_iff_toNat_le.1 hstart
    by_cases hstop : i.toNat < g.stop.toNat
    · have hlt : i.toNat - g.start.toNat < g.indices.length := by
        rw [Span.length_indices]
        omega
      have hindex : g.indices[i.toNat - g.start.toNat]? = some i := by
        rw [List.getElem?_eq_getElem hlt, Span.getElem_indices, Nat.add_sub_cancel' hle, UInt32.ofNat_toNat]
      simp only [hindex, hmem, hle, hstop, hstart, and_true, Option.bind_some]
      rfl
    · have hnone : g.indices[i.toNat - g.start.toNat]? = none := by
        rw [List.getElem?_eq_none_iff, Span.length_indices]
        omega
      simp [hnone, hmem, hstop]
  · have hnot : i ∉ g := fun hi => hstart hi.1
    simp [hstart, hnot]

theorem writes_begin_iff (h : begin site p g = .ok tx) {record : Address} {i : UInt32} {line : Line} :
    Record.Writes tx record i line ↔ (site.record = record ∧ i ∈ g) ∧ p.line? i = some line := by
  obtain ⟨instruction, hinstructions, hlines⟩ := lineAt?_begin h
  rw [Record.Writes, hinstructions]
  simp only [List.mem_singleton, exists_eq_left, hlines, Option.ite_none_right_eq_some]

/-! ### Marking -/

theorem get?_mark (hg : g.start < g.stop) (i : UInt32) :
    (mark p g).items.get? i = (p.items.get? i).map fun item => if i ∈ g then item.written else item := by
  change (p.items.markOnChain g.start g.last).get? i = _
  rw [Items.get?_markOnChain]
  simp only [Span.mem_iff_le_last hg]

theorem line?_mark (hg : g.start < g.stop) (i : UInt32) : (mark p g).line? i = p.line? i := by
  rw [Progress.line?, get?_mark hg, Option.map_map]
  refine congrFun (congrArg Option.map (funext fun item => ?_)) _
  change line (if i ∈ g then item.written else item) = line item
  split_ifs <;> rfl

theorem isOnChain_mark (hg : g.start < g.stop) (i : UInt32) :
    (mark p g).items.isOnChain i = (p.items.isOnChain i || (decide (i ∈ g) && p.items.contains i)) := by
  rw [Items.isOnChain, Items.isOnChain, Items.contains, get?_mark hg]
  cases p.items.get? i with
  | none => simp
  | some item => by_cases hi : i ∈ g <;> simp [hi, Item.written]

end Upload

end MintDrop
