import MintDrop.Proofs.Upload.Marks

/-!
# What an upload submits

`Upload.writing` is the transaction that writes the lines of a group, whether they are written already or not.
Once all groups of an upload have ended, it has submitted those of the groups that were not wholly marked at its
start, in some order (`submitted_perm`); a mark that is set meanwhile does not keep another group from being
submitted.  A transaction tells its group (`writing_injective`), so that what the ledger said to a group can be
read off the calls of the upload (`confirmsWrite_eq_confirms`).
-/

namespace MintDrop.Upload

open Script

/-- The transaction that writes the lines of a group, if they are there and can be encoded. -/
def writing (site : Site) (p : Progress) (g : Span) : Option Transaction := do
  let lines ← g.indices.mapM p.line?
  let instruction ←
    (Record.addLines site.program site.record site.authority.address g.start lines).toOption
  pure ⟨site.authority.address, [site.authority], [instruction]⟩

section

variable {site : Site} {p q : Progress} {g g' : Span} {tx : Transaction}

theorem mapM_line? (p : Progress) (xs : List UInt32) :
    xs.mapM p.line? = (xs.mapM p.items.get?).map (List.map line) := by
  induction xs with
  | nil => rfl
  | cons i xs ih =>
      rw [List.mapM_cons, List.mapM_cons, ih, Progress.line?]
      cases p.items.get? i <;> cases xs.mapM p.items.get? <;> rfl

/-- Marks decide whether a group is submitted, and lines what is submitted. -/
theorem begin_toOption (site : Site) (p : Progress) (g : Span) :
    (begin site p g).toOption = if wholly p g then none else writing site p g := by
  rw [begin, wholly, writing, mapM_line?]
  split_ifs with hall
  · rfl
  · cases g.indices.mapM p.items.get? with
    | none => rfl
    | some items =>
        cases hadd : Record.addLines site.program site.record site.authority.address g.start (items.map line) with
        | error e => simp [hadd, Except.toOption]
        | ok instruction => simp [hadd, Except.toOption]

theorem begin_eq_ok_iff : begin site p g = .ok tx ↔ wholly p g = false ∧ writing site p g = some tx := by
  have hoption : begin site p g = .ok tx ↔ (begin site p g).toOption = some tx := by
    cases begin site p g <;> simp [Except.toOption]
  rw [hoption, begin_toOption]
  cases wholly p g <;> simp

theorem writing_congr (h : ∀ i ∈ g, p.line? i = q.line? i) : writing site p g = writing site q g := by
  have hlines : g.indices.mapM p.line? = g.indices.mapM q.line? :=
    mapM_congr fun i hi => h i (Span.mem_indices.1 hi)
  rw [writing, writing, hlines]

theorem writing_eq_some (h : writing site p g = some tx) :
    ∃ lines instruction, g.indices.mapM p.line? = some lines ∧
      Record.addLines site.program site.record site.authority.address g.start lines = .ok instruction ∧
      tx = ⟨site.authority.address, [site.authority], [instruction]⟩ := by
  obtain ⟨lines, hlines, h⟩ := Option.bind_eq_some_iff.1 h
  obtain ⟨instruction, hinstruction, h⟩ := Option.bind_eq_some_iff.1 h
  refine ⟨lines, instruction, hlines, ?_, (Option.some.inj h).symm⟩
  cases hadd : Record.addLines site.program site.record site.authority.address g.start lines with
  | error e =>
      rw [hadd] at hinstruction
      cases hinstruction
  | ok instruction' =>
      rw [hadd] at hinstruction
      exact congrArg Except.ok (Option.some.inj hinstruction)

/-- The transaction of a group says at which index the group starts. -/
theorem writing_injective (h : writing site p g = some tx) (h' : writing site q g' = some tx) :
    g.start = g'.start := by
  obtain ⟨lines, instruction, -, hadd, rfl⟩ := writing_eq_some h
  obtain ⟨lines', instruction', -, hadd', htx⟩ := writing_eq_some h'
  obtain rfl : instruction = instruction' := by simpa using congrArg Transaction.instructions htx
  have hwritten := Record.written?_addLines hadd
  rw [Record.written?_addLines hadd'] at hwritten
  simp only [Option.some.injEq, Prod.mk.injEq] at hwritten
  exact hwritten.2.1.symm

theorem exists_writing (site : Site) (hlines : ∀ i ∈ g, ∃ l, p.line? i = some l ∧ l.Fits) :
    ∃ tx, writing site p g = some tx := by
  obtain ⟨lines, hread, hlength, hfits⟩ := exists_mapM fun i hi => hlines i (Span.mem_indices.1 hi)
  have hcount : lines.length < UInt32.size := by
    have := g.stop.toNat_lt_size
    rw [hlength, Span.length_indices]
    omega
  obtain ⟨instruction, hadd⟩ :=
    Record.exists_addLines site.program site.record site.authority.address g.start hcount hfits
  refine ⟨⟨site.authority.address, [site.authority], [instruction]⟩, ?_⟩
  rw [writing, hread, Option.bind_eq_bind, Option.bind_some, hadd]
  rfl

end

/-! ### Calls by group -/

/-- A log is an interleaving of the calls of its groups. -/
theorem perm_flatMap_calls {log : Log} {groups : List Span} (hnodup : groups.Nodup)
    (hlog : ∀ e ∈ log, e.1 ∈ groups) : (log.map (·.2)).Perm (groups.flatMap log.calls) := by
  induction groups generalizing log with
  | nil =>
      obtain rfl : log = [] := List.eq_nil_iff_forall_not_mem.2 fun e he => absurd (hlog e he) List.not_mem_nil
      exact List.Perm.refl _
  | cons g groups ih =>
      obtain ⟨hg, hnodup⟩ := List.nodup_cons.1 hnodup
      let others : Log := log.filter fun e => !decide (e.1 = g)
      have hothers : ∀ e ∈ others, e.1 ∈ groups := by
        intro e he
        obtain ⟨hmem, hne⟩ := List.mem_filter.1 he
        exact (List.mem_cons.1 (hlog e hmem)).resolve_left (by simpa using hne)
      have hcalls : groups.flatMap others.calls = groups.flatMap log.calls := by
        refine List.flatMap_congr fun g' hg' => ?_
        have hne : g' ≠ g := fun h => hg (h ▸ hg')
        refine congrArg (List.map _) ((List.filter_filter ..).trans (List.filter_congr fun e _ => ?_))
        by_cases he : e.1 = g'
        · simp [he, hne]
        · simp [he]
      have hsplit := (List.filter_append_perm (fun e : Span × Exchange => decide (e.1 = g)) log).map (·.2)
      rw [List.map_append] at hsplit
      rw [List.flatMap_cons, ← hcalls]
      exact hsplit.symm.trans ((ih hnodup hothers).append_left _)

section

variable {site : Site} {batching : Batching} {count : UInt32} {p : Progress} {log : Log} {b : Board} {g : Span}
  {stage : Stage} {calls t : List Exchange}

/-- A group that has ended has submitted its transaction once, or not at all. -/
theorem Trail.filterMap_submitted? (h : Trail site p g stage calls) (hended : stage.outcome?.isSome) :
    calls.filterMap Exchange.submitted? = (begin site p g).toOption.toList := by
  cases h with
  | waiting => cases hended
  | ready => cases hended
  | confirmed => cases hended
  | ended hbegin => rw [hbegin]; rfl
  | refused hbegin => rw [hbegin]; rfl
  | unsaved hbegin => rw [hbegin]; rfl
  | written hbegin => rw [hbegin]; rfl

/-- What an upload whose groups have ended has submitted: the transactions of the groups that were not wholly
marked at its start. -/
theorem submitted_perm (h : Steps site (.start batching count p) log b) (hended : b.Ended) :
    ((log.map (·.2)).filterMap Exchange.submitted?).Perm
      (((batching.groups count).filter (!wholly p ·)).filterMap (writing site p)) := by
  have hsound := sound_of_steps h
  have hcalls : ∀ g ∈ batching.groups count, (log.calls g).filterMap Exchange.submitted? =
      (if !wholly p g then writing site p g else none).toList := by
    intro g hg
    obtain ⟨task, htask, rfl⟩ := hsound.exists_task hg
    rw [(hsound.trail task htask).filterMap_submitted? (hended task htask), begin_toOption]
    cases wholly p task.group <;> rfl
  have hperm := (perm_flatMap_calls (tiles_groups batching count).nodup (group_mem_of_mem_log h)).filterMap
    Exchange.submitted?
  rw [List.filterMap_flatMap, List.flatMap_congr hcalls, ← List.filterMap_eq_flatMap_toList] at hperm
  rwa [List.filterMap_filter]

/-! ### What a group was told -/

/-- Whether the transaction of a group was submitted. -/
def submitsWrite (site : Site) (p : Progress) (t : List Exchange) (g : Span) : Bool :=
  (writing site p g).any fun tx => decide (tx ∈ t.filterMap Exchange.submitted?)

/-- Whether the transaction of a group was confirmed. -/
def confirmsWrite (site : Site) (p : Progress) (t : List Exchange) (g : Span) : Bool :=
  (writing site p g).any fun tx => decide (tx ∈ t.filterMap Exchange.confirmed?)

theorem submitsWrite_iff : submitsWrite site p t g ↔
    ∃ tx, writing site p g = some tx ∧ tx ∈ t.filterMap Exchange.submitted? := by
  rw [submitsWrite, Option.any_eq_true]
  simp only [decide_eq_true_eq]

theorem confirmsWrite_iff : confirmsWrite site p t g ↔
    ∃ tx, writing site p g = some tx ∧ tx ∈ t.filterMap Exchange.confirmed? := by
  rw [confirmsWrite, Option.any_eq_true]
  simp only [decide_eq_true_eq]

/-- A transaction that was confirmed is that of a group, and the group was told so. -/
theorem exists_group_of_confirmed {tx : Transaction} (h : Steps site (.start batching count p) log b)
    (htx : tx ∈ (log.map (·.2)).filterMap Exchange.confirmed?) :
    ∃ g ∈ batching.groups count, begin site p g = .ok tx ∧ log.confirms g := by
  obtain ⟨e, he, hconfirmed⟩ := List.mem_filterMap.1 htx
  obtain ⟨⟨g, e⟩, hmem, rfl⟩ := List.mem_map.1 he
  obtain ⟨hg, hbegin⟩ := begin_of_mem_log h hmem (Exchange.submitted?_of_confirmed? hconfirmed)
  refine ⟨g, hg, hbegin, List.any_eq_true.2 ⟨e, mem_calls.2 hmem, ?_⟩⟩
  rw [hconfirmed]
  rfl

/-- A group that was told that it is confirmed has a transaction, and that was confirmed. -/
theorem exists_confirmed_of_confirms (h : Steps site (.start batching count p) log b)
    (hconfirms : log.confirms g) :
    ∃ tx, begin site p g = .ok tx ∧ tx ∈ (log.map (·.2)).filterMap Exchange.confirmed? := by
  obtain ⟨e, hcall, hconfirmed⟩ := List.any_eq_true.1 hconfirms
  obtain ⟨tx, htx⟩ := Option.isSome_iff_exists.1 hconfirmed
  have hmem : (g, e) ∈ log := mem_calls.1 hcall
  refine ⟨tx, (begin_of_mem_log h hmem (Exchange.submitted?_of_confirmed? htx)).2, List.mem_filterMap.2 ⟨e, ?_, htx⟩⟩
  exact List.mem_map_of_mem hmem

theorem confirmsWrite_eq_confirms (h : Steps site (.start batching count p) log b)
    (hg : g ∈ batching.groups count) : confirmsWrite site p (log.map (·.2)) g = log.confirms g := by
  rw [Bool.eq_iff_iff, confirmsWrite_iff]
  constructor
  · rintro ⟨tx, hwriting, htx⟩
    obtain ⟨g', hg', hbegin, hconfirms⟩ := exists_group_of_confirmed h htx
    have hstart := writing_injective hwriting (begin_eq_ok_iff.1 hbegin).2
    rwa [(tiles_groups batching count).eq_of_start hg hg' hstart]
  · intro hconfirms
    obtain ⟨tx, hbegin, htx⟩ := exists_confirmed_of_confirms h hconfirms
    exact ⟨tx, (begin_eq_ok_iff.1 hbegin).2, htx⟩

/-- A group was submitted if it was not wholly marked and its lines could be written. -/
theorem submitsWrite_eq (h : Steps site (.start batching count p) log b) (hended : b.Ended)
    (hg : g ∈ batching.groups count) :
    submitsWrite site p (log.map (·.2)) g = (!wholly p g && (writing site p g).isSome) := by
  rw [Bool.eq_iff_iff, submitsWrite_iff, Bool.and_eq_true, Option.isSome_iff_exists]
  simp only [(submitted_perm h hended).mem_iff, List.mem_filterMap, List.mem_filter]
  constructor
  · rintro ⟨tx, hwriting, g', ⟨hg', hwholly⟩, hwriting'⟩
    rw [(tiles_groups batching count).eq_of_start hg hg' (writing_injective hwriting hwriting')]
    exact ⟨hwholly, tx, hwriting'⟩
  · rintro ⟨hwholly, tx, hwriting⟩
    exact ⟨tx, hwriting, g, ⟨hg, hwholly⟩, hwriting⟩

/-- A line that is written is that of an item in a group that was confirmed. -/
theorem line?_of_confirmed {i : UInt32} {line : Line} {tx : Transaction}
    (h : Steps site (.start batching count p) log b) (htx : tx ∈ (log.map (·.2)).filterMap Exchange.confirmed?)
    (hwrites : Record.Writes tx site.record i line) :
    (∃ g ∈ batching.groups count, i ∈ g ∧ log.confirms g) ∧ p.line? i = some line := by
  obtain ⟨g, hg, hbegin, hconfirms⟩ := exists_group_of_confirmed h htx
  obtain ⟨⟨-, hi⟩, hline⟩ := (writes_begin_iff hbegin).1 hwrites
  exact ⟨⟨g, hg, hi, hconfirms⟩, hline⟩

theorem exists_writes_of_confirms {i : UInt32} (hp : Covers p count) (h : Steps site (.start batching count p) log b)
    (hg : g ∈ batching.groups count) (hconfirms : log.confirms g) (hi : i ∈ g) :
    ∃ tx ∈ (log.map (·.2)).filterMap Exchange.confirmed?, ∃ line, Record.Writes tx site.record i line := by
  obtain ⟨tx, hbegin, htx⟩ := exists_confirmed_of_confirms h hconfirms
  obtain ⟨item, hitem⟩ := Option.isSome_iff_exists.1 (contains_of_mem_groups hp hg i hi)
  have hline : p.line? i = some (line item) := by rw [Progress.line?, hitem, Option.map_some]
  exact ⟨tx, htx, line item, (writes_begin_iff hbegin).2 ⟨⟨rfl, hi⟩, hline⟩⟩

/-- The ledger has written the line of an index if it has confirmed the group of the index. -/
theorem isSome_lastLine?_iff (h : Steps site (.start batching count p) log b) (hp : Covers p count)
    {i : UInt32} : (Record.lastLine? ((log.map (·.2)).filterMap Exchange.confirmed?) site.record i).isSome ↔
      ∃ g ∈ batching.groups count, i ∈ g ∧ log.confirms g := by
  constructor
  · intro hline
    obtain ⟨line, hline⟩ := Option.isSome_iff_exists.1 hline
    obtain ⟨tx, htx, hwrites⟩ := Record.exists_writes_of_lastLine? hline
    exact (line?_of_confirmed h htx hwrites).1
  · rintro ⟨g, hg, hi, hconfirms⟩
    obtain ⟨tx, htx, line, hwrites⟩ := exists_writes_of_confirms hp h hg hconfirms hi
    exact Option.isSome_iff_ne_none.2 (Record.lastLine?_ne_none_of_writes htx hwrites)

end

end MintDrop.Upload
