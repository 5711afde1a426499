import MintDrop.Proofs.Upload.Course

/-!
# Marks and the report

Once all groups of an upload have ended, `Exact` says what they have come to: an item is marked if it was at the
start or if the ledger confirmed the submission of its group, nothing else has changed, and the report counts
the groups by what the ledger and the store replied to them.  It holds for steps in any order
(`exact_of_sound`), and for any order in which the outcomes are gathered.
-/

namespace MintDrop.Upload

open Script

/-- Whether the ledger confirmed the submission of a group. -/
def Log.confirms (log : Log) (g : Span) : Bool := (log.calls g).any (·.confirmed?.isSome)

/-- Whether the store saved the progress with a group marked. -/
def Log.saves (log : Log) (g : Span) : Bool := (log.calls g).any (·.saved?.isSome)

/-- Whether all items of a group are marked. -/
def wholly (p : Progress) (g : Span) : Bool := g.indices.all p.items.isOnChain

/-- Whether a group is left over: it was neither marked at the start nor written and saved. -/
def leftOver (p : Progress) (log : Log) (g : Span) : Bool :=
  !wholly p g && !(log.confirms g && log.saves g)

/-- What the groups of an upload of the items below `count` have come to, if it began with the progress `p` and
ended with the progress `q`. -/
structure Exact (site : Site) (count : UInt32) (groups : List Span) (p : Progress) (log : Log) (q : Progress)
    (report : Report) : Prop where
  marks : ∀ i < count, (q.items.isOnChain i ↔
    p.items.isOnChain i ∨ ∃ g ∈ groups, i ∈ g ∧ log.confirms g)
  line? : ∀ i, q.line? i = p.line? i
  program : q.program = p.program
  beyond : ∀ i, count ≤ i → q.items.get? i = p.items.get? i
  skipped : report.skipped = groups.countP (wholly p)
  written : report.written = groups.countP fun g => log.confirms g && log.saves g
  failures : report.failures.map (·.group) = groups.filter (leftOver p log)
  /-- A group that failed was refused, if its lines could be submitted at all, or it was confirmed but the
  progress was not saved. -/
  reasons : ∀ f ∈ report.failures,
    (∃ e, f.reason = .ledger e ∧ log.confirms f.group = false ∧
      ((∃ tx, (f.group, ⟨.submit tx, .error e⟩) ∈ log) ∨ begin site p f.group = .error (.failed f))) ∨
    ∃ signature e, f.reason = .unsaved signature e ∧
      (∃ tx, (f.group, ⟨.submit tx, .ok signature⟩) ∈ log) ∧
      (∃ slot q', (f.group, ⟨.save slot q', .error e⟩) ∈ log) ∧ log.saves f.group = false
  ascending : (report.failures.map (·.group.start)).Pairwise (· < ·)
  total : report.totalGroups = groups.length

/-! ### How one group ends -/

section

variable {site : Site} {p : Progress} {g : Span} {stage : Stage} {calls : List Exchange}

theorem wholly_iff : wholly p g ↔ ∀ i ∈ g, p.items.isOnChain i := by
  rw [wholly, List.all_eq_true]
  exact forall_congr' fun i => by rw [Span.mem_indices]

theorem wholly_eq_false_of_begin {tx : Transaction} (h : begin site p g = .ok tx) : wholly p g = false :=
  Bool.eq_false_iff.2 fun hall => (begin_eq_ok h).1 (wholly_iff.1 hall)

/-- How a group that has its items ends, by the replies to its calls. -/
inductive Ending (site : Site) (p : Progress) (g : Span) (calls : List Exchange) : Outcome → Prop
  | skipped : wholly p g = true → calls = [] → Ending site p g calls .skipped
  | written {tx : Transaction} {signature : Signature} {slot : Slot} {q : Progress} : wholly p g = false →
      calls = [⟨.submit tx, .ok signature⟩, ⟨.save slot q, .ok ()⟩] → Ending site p g calls .written
  | unsent {e : LedgerError} : wholly p g = false → calls = [] →
      begin site p g = .error (.failed ⟨g, .ledger e⟩) → Ending site p g calls (.failed ⟨g, .ledger e⟩)
  | refused {tx : Transaction} {e : LedgerError} : wholly p g = false → calls = [⟨.submit tx, .error e⟩] →
      Ending site p g calls (.failed ⟨g, .ledger e⟩)
  | unsaved {tx : Transaction} {signature : Signature} {slot : Slot} {q : Progress} {e : StoreError} :
      wholly p g = false → calls = [⟨.submit tx, .ok signature⟩, ⟨.save slot q, .error e⟩] →
      Ending site p g calls (.failed ⟨g, .unsaved signature e⟩)

theorem Trail.ending (h : Trail site p g stage calls) (hitems : ∀ i ∈ g, p.items.contains i)
    (hended : stage.outcome?.isSome) : ∃ outcome, stage.outcome? = some outcome ∧ Ending site p g calls outcome := by
  cases h with
  | waiting => cases hended
  | ready => cases hended
  | confirmed => cases hended
  | @ended outcome hbegin =>
      refine ⟨outcome, rfl, ?_⟩
      rcases begin_eq_error hbegin with ⟨rfl, hall⟩ | ⟨rfl, hnone⟩ | ⟨items, e, rfl, -, -⟩
      · exact .skipped (wholly_iff.2 hall) rfl
      · obtain ⟨items, hsome, -⟩ := exists_mapM (P := fun _ => True) fun i hi =>
          (Option.isSome_iff_exists.1 (hitems i (Span.mem_indices.1 hi))).imp fun _ hitem => ⟨hitem, trivial⟩
        rw [hsome] at hnone
        cases hnone
      · refine .unsent (Bool.eq_false_iff.2 fun hall => ?_) rfl hbegin
        rw [begin_eq_skipped (wholly_iff.1 hall)] at hbegin
        cases hbegin
  | refused hbegin => exact ⟨_, rfl, .refused (wholly_eq_false_of_begin hbegin) rfl⟩
  | unsaved hbegin => exact ⟨_, rfl, .unsaved (wholly_eq_false_of_begin hbegin) rfl⟩
  | written hbegin => exact ⟨_, rfl, .written (wholly_eq_false_of_begin hbegin) rfl⟩

/-- A group that has ended is marked if the ledger confirmed its submission. -/
theorem Trail.isMarked_of_confirmed (h : Trail site p g stage calls) (hended : stage.outcome?.isSome)
    (hconfirmed : calls.any (·.confirmed?.isSome)) : stage.isMarked := by
  cases h with
  | waiting => cases hended
  | ready => cases hended
  | confirmed => cases hended
  | refused => cases hconfirmed
  | ended => cases hconfirmed
  | unsaved => rfl
  | written => rfl

end

/-! ### How all groups end -/

section

variable {site : Site} {batching : Batching} {count : UInt32} {p : Progress} {groups : List Span} {log : Log}
  {b : Board} {g : Span} {outcome : Outcome}

/-- What a report makes of the outcome of a group. -/
theorem Ending.counted (h : Ending site p g (log.calls g) outcome) :
    (fun | .skipped => true | _ => false : Outcome → Bool) outcome = wholly p g ∧
      (fun | .written => true | _ => false : Outcome → Bool) outcome = (log.confirms g && log.saves g) ∧
      (Report.failure? outcome).map (·.group) = if leftOver p log g then some g else none := by
  unfold leftOver Log.confirms Log.saves
  cases h with
  | skipped hwholly hcalls => simp [hwholly, hcalls, Report.failure?]
  | written hwholly hcalls => simp [hwholly, hcalls, Report.failure?, Exchange.confirmed?, Exchange.saved?]
  | unsent hwholly hcalls => simp [hwholly, hcalls, Report.failure?]
  | refused hwholly hcalls => simp [hwholly, hcalls, Report.failure?, Exchange.confirmed?]
  | unsaved hwholly hcalls => simp [hwholly, hcalls, Report.failure?, Exchange.confirmed?, Exchange.saved?]

/-- Why a group failed. -/
theorem Ending.reason {f : Failure} (h : Ending site p g (log.calls g) (.failed f)) :
    (∃ e, f.reason = .ledger e ∧ log.confirms f.group = false ∧
      ((∃ tx, (f.group, ⟨.submit tx, .error e⟩) ∈ log) ∨ begin site p f.group = .error (.failed f))) ∨
    ∃ signature e, f.reason = .unsaved signature e ∧
      (∃ tx, (f.group, ⟨.submit tx, .ok signature⟩) ∈ log) ∧
      (∃ slot q', (f.group, ⟨.save slot q', .error e⟩) ∈ log) ∧ log.saves f.group = false := by
  unfold Log.confirms Log.saves
  generalize hcalls : log.calls g = calls at h
  cases h with
  | @unsent e hwholly hnone hbegin =>
      refine Or.inl ⟨e, rfl, ?_, Or.inr hbegin⟩
      rw [hcalls, hnone]
      rfl
  | @refused tx e hwholly hone =>
      refine Or.inl ⟨e, rfl, ?_, Or.inl ⟨tx, mem_calls.1 ?_⟩⟩
      · rw [hcalls, hone]
        rfl
      · rw [hcalls, hone]
        exact List.mem_cons_self
  | @unsaved tx signature slot q e hwholly htwo =>
      refine Or.inr ⟨signature, e, rfl, ⟨tx, mem_calls.1 ?_⟩, ⟨slot, q, mem_calls.1 ?_⟩, ?_⟩
      · rw [hcalls, htwo]
        exact List.mem_cons_self
      · rw [hcalls, htwo]
        exact List.mem_cons_of_mem _ List.mem_cons_self
      · rw [hcalls, htwo]
        rfl

theorem contains_of_mem_groups (hp : Covers p count) (hg : g ∈ batching.groups count) :
    ∀ i ∈ g, p.items.contains i := fun i hi =>
  hp i ((tiles_groups batching count).lt_of_mem hg hi)

theorem Sound.ending (h : Sound site p (batching.groups count) log b) (hp : Covers p count) (hended : b.Ended) :
    ∀ t ∈ b.tasks, ∃ outcome, t.stage.outcome? = some outcome ∧
      Ending site p t.group (log.calls t.group) outcome := fun t ht =>
  (h.trail t ht).ending (contains_of_mem_groups hp (h.group_mem ht)) (hended t ht)

/-- Outcomes are counted by what they say about their groups. -/
theorem countP_outcomes {P : Outcome → Bool} {P' : Span → Bool}
    (h : ∀ t ∈ b.tasks, ∃ outcome, t.stage.outcome? = some outcome ∧ P outcome = P' t.group) :
    b.outcomes.countP P = (b.tasks.map (·.group)).countP P' := by
  rw [Board.outcomes, List.countP_filterMap, List.countP_map]
  refine List.countP_congr fun t ht => ?_
  obtain ⟨outcome, houtcome, hP⟩ := h t ht
  rw [houtcome, Function.comp_apply, ← hP]
  rfl

/-- The failures are those of the groups that are left over, in their order. -/
theorem map_group_failures
    (h : ∀ t ∈ b.tasks, ∃ outcome, t.stage.outcome? = some outcome ∧
      (Report.failure? outcome).map (·.group) = if leftOver p log t.group then some t.group else none) :
    (b.outcomes.filterMap Report.failure?).map (·.group) =
      (b.tasks.map (·.group)).filter (leftOver p log) := by
  rw [Board.outcomes, List.filterMap_filterMap, List.map_filterMap, List.filter_map, ← List.filterMap_eq_filter,
    List.map_filterMap]
  refine List.filterMap_congr fun t ht => ?_
  obtain ⟨outcome, houtcome, hfailure⟩ := h t ht
  rw [houtcome, Option.bind_some, hfailure, Option.guard, Function.comp_apply]
  split_ifs <;> rfl

/-- Failures of ascending groups are sorted to the same list, in whatever order they are gathered. -/
theorem mergeSort_failures {failures gathered : List Failure} (hperm : gathered.Perm failures)
    (hascending : failures.Pairwise fun f g => f.group.start < g.group.start) :
    (gathered.mergeSort fun f g => f.group.start ≤ g.group.start) = failures := by
  have hsorted : (gathered.mergeSort fun f g => f.group.start ≤ g.group.start).Pairwise
      fun f g => f.group.start ≤ g.group.start := by
    refine (List.pairwise_mergeSort (fun f g f' hfg hgf' => ?_) (fun f g => ?_) gathered).imp of_decide_eq_true
    · exact decide_eq_true (UInt32.le_trans (of_decide_eq_true hfg) (of_decide_eq_true hgf'))
    · simpa using UInt32.le_total f.group.start g.group.start
  have hmem : ∀ f, f ∈ (gathered.mergeSort fun f g => f.group.start ≤ g.group.start) → f ∈ failures :=
    fun f hf => hperm.mem_iff.1 (List.mem_mergeSort.1 hf)
  refine List.Perm.eq_of_pairwise (fun f g hf hg hfg hgf => ?_) hsorted
    (hascending.imp UInt32.le_of_lt) ((List.mergeSort_perm gathered _).trans hperm)
  have hstart : f.group.start = g.group.start := UInt32.le_antisymm hfg hgf
  have hnodup : (failures.map (·.group.start)).Nodup :=
    List.Pairwise.map _ (fun _ _ hlt => (UInt32.ne_of_lt hlt)) hascending
  exact List.inj_on_of_nodup_map hnodup (hmem f hf) hg hstart

/-- The order in which outcomes are gathered does not matter to the report. -/
theorem ofOutcomes_eq_of_perm {outcomes outcomes' : List Outcome} (hperm : outcomes.Perm outcomes')
    (hascending : (outcomes'.filterMap Report.failure?).Pairwise fun f g => f.group.start < g.group.start) :
    Report.ofOutcomes outcomes = .ofOutcomes outcomes' := by
  rw [Report.ofOutcomes, Report.ofOutcomes, hperm.countP_eq, hperm.countP_eq,
    mergeSort_failures (hperm.filterMap _) hascending, mergeSort_failures (List.Perm.refl _) hascending]

/-- Every outcome is counted once. -/
theorem totalGroups_ofOutcomes (outcomes : List Outcome) :
    (Report.ofOutcomes outcomes).totalGroups = outcomes.length := by
  rw [Report.totalGroups, Report.ofOutcomes, List.length_mergeSort]
  induction outcomes with
  | nil => rfl
  | cons outcome outcomes ih => cases outcome <;> simp [List.filterMap_cons, Report.failure?] at ih ⊢ <;> omega

theorem Sound.lt_of_marked (h : Sound site p (batching.groups count) log b) {i : UInt32} (hmarked : b.Marked i) :
    i < count := by
  obtain ⟨t, ht, -, hi⟩ := hmarked
  exact (tiles_groups batching count).lt_of_mem (h.group_mem ht) hi

theorem Sound.marked_iff (h : Sound site p groups log b) (hended : b.Ended) {i : UInt32} :
    b.Marked i ↔ ∃ g ∈ groups, i ∈ g ∧ log.confirms g := by
  constructor
  · rintro ⟨t, ht, hmarked, hi⟩
    obtain ⟨tx, signature, -, hmem⟩ := (h.trail t ht).confirmed_of_isMarked hmarked
    exact ⟨t.group, h.group_mem ht, hi, List.any_eq_true.2 ⟨_, hmem, rfl⟩⟩
  · rintro ⟨g, hg, hi, hconfirms⟩
    obtain ⟨t, ht, rfl⟩ := h.exists_task hg
    exact ⟨t, ht, (h.trail t ht).isMarked_of_confirmed (hended t ht) hconfirms, hi⟩

/-- On the board, the failures are in ascending order. -/
theorem Sound.failures_ascending (h : Sound site p (batching.groups count) log b) (hp : Covers p count)
    (hended : b.Ended) : (b.outcomes.filterMap Report.failure?).map (·.group) =
        (batching.groups count).filter (leftOver p log) ∧
      (b.outcomes.filterMap Report.failure?).Pairwise fun f g => f.group.start < g.group.start := by
  have hfailures : (b.outcomes.filterMap Report.failure?).map (·.group) =
      (batching.groups count).filter (leftOver p log) := by
    rw [← h.groups]
    refine map_group_failures fun t ht => ?_
    obtain ⟨outcome, houtcome, hends⟩ := h.ending hp hended t ht
    exact ⟨outcome, houtcome, hends.counted.2.2⟩
  have hgroups := (tiles_groups batching count).pairwise_start.filter (leftOver p log)
  rw [← hfailures, List.pairwise_map] at hgroups
  exact ⟨hfailures, hgroups⟩

theorem exact_of_sound (hp : Covers p count) (h : Sound site p (batching.groups count) log b)
    (hended : b.Ended) {outcomes : List Outcome} (hperm : outcomes.Perm b.outcomes) :
    Exact site count (batching.groups count) p log b.progress (.ofOutcomes outcomes) := by
  have hending := h.ending hp hended
  obtain ⟨hfailures, hascending⟩ := h.failures_ascending hp hended
  have hsorted : (Report.ofOutcomes outcomes).failures = b.outcomes.filterMap Report.failure? :=
    mergeSort_failures (hperm.filterMap _) hascending
  refine
    { marks := ?marks, line? := h.line?_eq, program := h.program, beyond := ?beyond, skipped := ?skipped
      written := ?written, failures := hsorted.symm ▸ hfailures, reasons := ?reasons, ascending := ?ascending
      total := ?total }
  case marks =>
    intro i hi
    rw [h.isOnChain_iff, h.marked_iff hended, and_iff_left (hp i hi)]
  case beyond =>
    exact fun i hi => h.get?_of_not_marked fun hmarked => UInt32.not_lt.2 hi (h.lt_of_marked hmarked)
  case skipped =>
    change outcomes.countP _ = _
    rw [← h.groups, hperm.countP_eq]
    refine countP_outcomes fun t ht => ?_
    obtain ⟨outcome, houtcome, hends⟩ := hending t ht
    exact ⟨outcome, houtcome, hends.counted.1⟩
  case written =>
    change outcomes.countP _ = _
    rw [← h.groups, hperm.countP_eq]
    refine countP_outcomes fun t ht => ?_
    obtain ⟨outcome, houtcome, hends⟩ := hending t ht
    exact ⟨outcome, houtcome, hends.counted.2.1⟩
  case reasons =>
    intro f hf
    rw [hsorted, Board.outcomes, List.filterMap_filterMap, List.mem_filterMap] at hf
    obtain ⟨t, ht, hf⟩ := hf
    obtain ⟨outcome, houtcome, hends⟩ := hending t ht
    rw [houtcome, Option.bind_some] at hf
    cases outcome with
    | written => cases hf
    | skipped => cases hf
    | failed f' =>
        obtain rfl : f' = f := Option.some.inj hf
        exact hends.reason
  case ascending =>
    rw [hsorted]
    exact List.pairwise_map.2 hascending
  case total =>
    rw [totalGroups_ofOutcomes, hperm.length_eq, ← List.countP_true, ← List.countP_true, ← h.groups]
    refine countP_outcomes fun t ht => ?_
    obtain ⟨outcome, houtcome, -⟩ := hending t ht
    exact ⟨outcome, houtcome, rfl⟩

end

/-- A run of an upload that has its items is a course of steps and the last save.  Whatever their order, once
all groups have ended the marks are those at the start and those of the groups that the ledger confirmed, and the
report counts the groups by the replies to their calls. -/
theorem marks_eq_confirmed {site : Site} {batching : Batching} {count : UInt32} {p : Progress}
    (hp : Covers p count) :
    (∀ t result, Makes (run site batching count p).run t (some result) →
      ∃ log b reply, Steps site (.start batching count p) log b ∧ b.Ended ∧ result = resultOf b reply ∧
        t = log.map (·.2) ++ [⟨.save b.progress.slot b.progress, reply⟩]) ∧
    ∀ log b, Steps site (.start batching count p) log b → b.Ended → ∀ outcomes, outcomes.Perm b.outcomes →
      Exact site count (batching.groups count) p log b.progress (.ofOutcomes outcomes) := by
  constructor
  · intro t result h
    obtain ⟨log, b, hcourse, hfinal⟩ := makes_run hp h
    obtain ⟨hended, reply, hresult, ht⟩ := hfinal result rfl
    exact ⟨log, b, reply, hcourse.steps, hended, hresult, ht⟩
  · intro log b h hended outcomes hperm
    exact exact_of_sound hp (sound_of_steps h) hended hperm

theorem marks_eq_confirmed_twoItems :
    ∃ log b, Steps ⟨.zero, .zero, default⟩ (.start ⟨1, 1, 1⟩ 2 twoItems) log b ∧ b.Ended ∧
      (Report.ofOutcomes b.outcomes).written = 1 ∧ (Report.ofOutcomes b.outcomes).skipped = 1 ∧
      Exact ⟨.zero, .zero, default⟩ 2 (Batching.groups ⟨1, 1, 1⟩ 2) twoItems log b.progress
        (.ofOutcomes b.outcomes) := by
  obtain ⟨hruns, hexact⟩ := @marks_eq_confirmed ⟨.zero, .zero, default⟩ ⟨1, 1, 1⟩ 2 twoItems covers_twoItems
  obtain ⟨log, b, reply, hsteps, hended, hresult, -⟩ := hruns _ _ makes_twoItemsUpload
  have hcounts : (match twoItemsUpload.2 with
      | .ok (report, _) => decide (report.written = 1 ∧ report.skipped = 1)
      | .error _ => false) = true := by decide +kernel
  rw [hresult] at hcounts
  cases reply with
  | error e => cases hcounts
  | ok _ =>
      obtain ⟨hwritten, hskipped⟩ := of_decide_eq_true hcounts
      exact ⟨log, b, hsteps, hended, hwritten, hskipped, hexact log b hsteps hended _ (List.Perm.refl _)⟩

end MintDrop.Upload
