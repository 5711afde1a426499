import MintDrop.Proofs.Upload.Resume

/-!
# Uploads in any order

If the ledger refuses groups by the index at which they start and all saves succeed, a group ends in the same way
whatever the others have come to (`settled`).  Then the result of an upload, what is kept after it and what it has
submitted do not depend on the order of its steps.  If no group is refused, its progress does not depend on the
batching either, but for the checks of items that were marked before (`order_irrelevant`).
-/

namespace MintDrop

/-- An item that is not to be checked any more. -/
def Item.checked (item : Item) : Item := { item with verifyRun := false }

/-- Whether progress that comes from `p` in two ways is the same, but for the checks of items that are marked
in `p`. -/
structure Progress.AgreeFrom (p q q' : Progress) : Prop where
  program : q.program = q'.program
  slot : q.slot = q'.slot
  get? : ∀ i, q.items.get? i = q'.items.get? i ∨
    p.items.isOnChain i ∧ (q.items.get? i).map Item.checked = (q'.items.get? i).map Item.checked

/-- The error with which a transaction is refused, by the index at which it begins to write lines. -/
def Transaction.refusal? (refuse : UInt32 → Option LedgerError) (tx : Transaction) : Option LedgerError :=
  tx.instructions.findSome? fun i => (Record.linesIndex? i.data).bind refuse

/-- Whether a reply is one of a ledger that refuses just by the index at which lines are written, or of a store
that saves. -/
def Exchange.obeys (refuse : UInt32 → Option LedgerError) : Exchange → Bool
  | ⟨.submit tx, .error e⟩ => tx.refusal? refuse = some e
  | ⟨.submit tx, .ok _⟩ => tx.refusal? refuse = none
  | ⟨.save _ _, .error _⟩ => false
  | _ => true

namespace Upload

open Script

/-- Whether no group was refused, by the ledger or because its lines cannot be encoded. -/
def Report.Unrefused (r : Report) : Prop := ∀ f ∈ r.failures, ∀ e, f.reason ≠ .ledger e

/-- How a group ends if the ledger refuses by its start and all saves succeed. -/
def settled (site : Site) (p : Progress) (refuse : UInt32 → Option LedgerError) (g : Span) : Outcome :=
  match begin site p g with
  | .error outcome => outcome
  | .ok _ =>
      match refuse g.start with
      | some e => .failed ⟨g, .ledger e⟩
      | none => .written

section

variable {site : Site} {batching : Batching} {count : UInt32} {p q : Progress} {log : Log} {b : Board} {g : Span}
  {t : List Exchange} {refuse : UInt32 → Option LedgerError}

/-! ### Groups that are refused by their start -/

theorem refusal?_of_begin {tx : Transaction} (h : begin site p g = .ok tx) : tx.refusal? refuse = refuse g.start := by
  obtain ⟨-, items, instruction, -, hadd, rfl⟩ := begin_eq_ok h
  rw [Transaction.refusal?, List.findSome?_singleton, Record.linesIndex?_addLines hadd, Option.bind_some]

theorem Trail.eq_settled {stage : Stage} {calls : List Exchange} (h : Trail site p g stage calls)
    (hended : stage.outcome?.isSome) (hobeys : ∀ e ∈ calls, e.obeys refuse) :
    stage = .ended (settled site p refuse g) := by
  unfold settled
  cases h with
  | waiting => cases hended
  | ready => cases hended
  | confirmed => cases hended
  | ended hbegin => rw [hbegin]
  | refused hbegin =>
      have hrefused := of_decide_eq_true (hobeys _ List.mem_cons_self)
      rw [refusal?_of_begin hbegin] at hrefused
      rw [hbegin]
      simp only [hrefused]
  | unsaved => cases hobeys _ (List.mem_cons_of_mem _ List.mem_cons_self)
  | written hbegin =>
      have haccepted := of_decide_eq_true (hobeys _ List.mem_cons_self)
      rw [refusal?_of_begin hbegin] at haccepted
      rw [hbegin]
      simp only [haccepted]

theorem Sound.stage_eq_settled {groups : List Span} (h : Sound site p groups log b) (hended : b.Ended)
    (hobeys : ∀ e ∈ log.map (·.2), e.obeys refuse) :
    ∀ task ∈ b.tasks, task.stage = .ended (settled site p refuse task.group) := fun task htask =>
  (h.trail task htask).eq_settled (hended task htask) fun _ he =>
    hobeys _ (List.mem_map_of_mem (mem_calls.1 he))

theorem Sound.outcomes_eq_settled {groups : List Span} (h : Sound site p groups log b) (hended : b.Ended)
    (hobeys : ∀ e ∈ log.map (·.2), e.obeys refuse) : b.outcomes = groups.map (settled site p refuse) := by
  have hstages := h.stage_eq_settled hended hobeys
  have houtcomes : b.outcomes = b.tasks.filterMap fun task => some (settled site p refuse task.group) := by
    refine List.filterMap_congr fun task htask => ?_
    rw [hstages task htask]
    rfl
  rw [houtcomes, ← h.groups, List.map_map]
  exact congrFun List.filterMap_eq_map _

theorem Sound.marked_iff_settled {groups : List Span} (h : Sound site p groups log b) (hended : b.Ended)
    (hobeys : ∀ e ∈ log.map (·.2), e.obeys refuse) {i : UInt32} :
    b.Marked i ↔ ∃ g ∈ groups, (Stage.ended (settled site p refuse g)).isMarked ∧ i ∈ g := by
  have hstages := h.stage_eq_settled hended hobeys
  constructor
  · rintro ⟨task, htask, hmarked, hi⟩
    rw [hstages task htask] at hmarked
    exact ⟨task.group, h.group_mem htask, hmarked, hi⟩
  · rintro ⟨g, hg, hmarked, hi⟩
    obtain ⟨task, htask, rfl⟩ := h.exists_task hg
    exact ⟨task, htask, by rwa [hstages task htask], hi⟩

theorem progress_eq_of_obeys {log' : Log} {b' : Board} (h : Steps site (.start batching count p) log b)
    (h' : Steps site (.start batching count p) log' b') (hended : b.Ended) (hended' : b'.Ended)
    (hobeys : ∀ e ∈ log.map (·.2), e.obeys refuse) (hobeys' : ∀ e ∈ log'.map (·.2), e.obeys refuse) :
    b.progress = b'.progress := by
  have hsound := sound_of_steps h
  have hsound' := sound_of_steps h'
  refine Progress.ext_get? (hsound.program.trans hsound'.program.symm) (hsound.slot.trans hsound'.slot.symm) ?_
  intro i
  rw [hsound.get?, hsound'.get?]
  simp only [hsound.marked_iff_settled hended hobeys, hsound'.marked_iff_settled hended' hobeys']

/-- The report is the same after steps in another order, in whatever order the outcomes are gathered. -/
theorem report_eq_of_obeys {log' : Log} {b' : Board} (hp : Covers p count)
    (h : Steps site (.start batching count p) log b) (h' : Steps site (.start batching count p) log' b')
    (hended : b.Ended) (hended' : b'.Ended) (hobeys : ∀ e ∈ log.map (·.2), e.obeys refuse)
    (hobeys' : ∀ e ∈ log'.map (·.2), e.obeys refuse) {outcomes outcomes' : List Outcome}
    (hperm : outcomes.Perm b.outcomes) (hperm' : outcomes'.Perm b'.outcomes) :
    Report.ofOutcomes outcomes = .ofOutcomes outcomes' := by
  have hsound := sound_of_steps h
  have hsound' := sound_of_steps h'
  have houtcomes : b.outcomes = b'.outcomes :=
    (hsound.outcomes_eq_settled hended hobeys).trans (hsound'.outcomes_eq_settled hended' hobeys').symm
  rw [ofOutcomes_eq_of_perm hperm (hsound.failures_ascending hp hended).2, houtcomes,
    ofOutcomes_eq_of_perm hperm' (hsound'.failures_ascending hp hended').2]

theorem exists_ok_of_obeys {r : Except Error (Report × Progress)} (hp : Covers p count)
    (h : Makes (run site batching count p).run t (some r)) (hobeys : ∀ e ∈ t, e.obeys refuse) :
    ∃ report q, r = .ok (report, q) := by
  obtain ⟨log, b, -, hfinal⟩ := makes_run hp h
  obtain ⟨-, reply, rfl, rfl⟩ := hfinal r rfl
  cases reply with
  | ok u => exact ⟨_, _, rfl⟩
  | error e => cases hobeys _ (List.mem_append_right _ List.mem_cons_self)

/-! ### Other batchings -/

theorem Sound.get?_of_complete (h : Sound site p (batching.groups count) log b)
    (hall : ∀ i < count, b.progress.items.isOnChain i) {i : UInt32} (hi : ¬ p.items.isOnChain i) :
    b.progress.items.get? i = if i < count then (p.items.get? i).map Item.written else p.items.get? i := by
  split_ifs with hlt
  · have hmarked := ((h.isOnChain_iff.1 (hall i hlt)).resolve_left hi).1
    rw [h.get? i]
    simp only [hmarked, if_true]
  · exact h.get?_of_not_marked fun hmarked => hlt (h.lt_of_marked hmarked)

/-- An item that is marked at the start changes in its check at most. -/
theorem Sound.checked_get? {groups : List Span} (h : Sound site p groups log b) {i : UInt32}
    (hi : p.items.isOnChain i) : (b.progress.items.get? i).map Item.checked = (p.items.get? i).map Item.checked := by
  obtain ⟨item, hitem⟩ := Items.exists_get?_of_isOnChain hi
  rw [Items.isOnChain, hitem] at hi
  obtain ⟨name, uri, onChain, verifyRun⟩ := item
  obtain rfl : onChain = true := hi
  rw [h.get? i, hitem]
  simp only [Option.map_some]
  split_ifs <;> rfl

/-- Complete uploads of the same progress agree, whatever their groups were. -/
theorem agreeFrom_of_complete {batching' : Batching} {log' : Log} {b' : Board}
    (h : Sound site p (batching.groups count) log b) (h' : Sound site p (batching'.groups count) log' b')
    (hall : ∀ i < count, b.progress.items.isOnChain i) (hall' : ∀ i < count, b'.progress.items.isOnChain i) :
    p.AgreeFrom b.progress b'.progress where
  program := h.program.trans h'.program.symm
  slot := h.slot.trans h'.slot.symm
  get? i := by
    by_cases hi : p.items.isOnChain i
    · exact Or.inr ⟨hi, (h.checked_get? hi).trans (h'.checked_get? hi).symm⟩
    · exact Or.inl ((h.get?_of_complete hall hi).trans (h'.get?_of_complete hall' hi).symm)

/-- Lines that fit are refused by the ledger only. -/
theorem unrefused_of_obeys {report : Report} (hp : Covers p count) (hfits : Fitting p count)
    (h : Makes (run site batching count p).run t (some (.ok (report, q))))
    (hobeys : ∀ e ∈ t, e.obeys fun _ => none) : report.Unrefused := by
  obtain ⟨log, b, hsteps, hended, rfl, rfl, rfl, -⟩ := exists_steps_of_makes_ok hp h
  have hlog : ∀ e ∈ log.map (·.2), e.obeys fun _ => none := fun e he => hobeys e (List.mem_append_left _ he)
  intro f hf
  obtain ⟨outcome, houtcome, hfailure⟩ := List.mem_filterMap.1 (List.mem_mergeSort.1 hf)
  rw [(sound_of_steps hsteps).outcomes_eq_settled hended hlog] at houtcome
  obtain ⟨g, hg, rfl⟩ := List.mem_map.1 houtcome
  obtain ⟨tx, hwriting⟩ := exists_writing_of_mem_groups site hp hfits hg
  have hunfailed : Report.failure? (settled site p (fun _ => none) g) = none := by
    rw [settled]
    cases hwholly : wholly p g with
    | true => rw [begin_eq_skipped (wholly_iff.1 hwholly)]; rfl
    | false => rw [begin_eq_ok_iff.2 ⟨hwholly, hwriting⟩]; rfl
  rw [hunfailed] at hfailure
  cases hfailure

/-- If the ledger refuses groups by the index at which they start and the saves succeed, two complete runs of an
upload have the same result, leave the same progress in the store and submit the same transactions, in whatever
order their groups took their steps; the report is the same in whatever order the outcomes are gathered.  If no
group is refused, uploads in other batchings end with the same progress, but for the checks of items that were
marked at the start, and keep it. -/
theorem order_irrelevant (hp : Covers p count) :
    (∀ refuse batching t t' r r', Makes (run site batching count p).run t (some r) →
      Makes (run site batching count p).run t' (some r') → (∀ e ∈ t, e.obeys refuse) →
      (∀ e ∈ t', e.obeys refuse) →
        (∃ report q, r = .ok (report, q) ∧ r' = .ok (report, q)) ∧
        (∀ kept : Kept, kept.after t = kept.after t') ∧
        (t.filterMap Exchange.submitted?).Perm (t'.filterMap Exchange.submitted?)) ∧
    (∀ refuse batching log log' b b', Steps site (.start batching count p) log b →
      Steps site (.start batching count p) log' b' → b.Ended → b'.Ended →
      (∀ e ∈ log.map (·.2), e.obeys refuse) → (∀ e ∈ log'.map (·.2), e.obeys refuse) →
        ∀ outcomes outcomes', outcomes.Perm b.outcomes → outcomes'.Perm b'.outcomes →
          Report.ofOutcomes outcomes = .ofOutcomes outcomes') ∧
    (∀ batching batching' t t' report report' q q',
      Makes (run site batching count p).run t (some (.ok (report, q))) →
      Makes (run site batching' count p).run t' (some (.ok (report', q'))) →
      report.Unrefused → report'.Unrefused →
        p.AgreeFrom q q' ∧
        ∀ kept : Kept, kept.after t p.slot = some q ∧ kept.after t' p.slot = some q') ∧
    (Fitting p count → ∀ batching t report q, Makes (run site batching count p).run t (some (.ok (report, q))) →
      (∀ e ∈ t, e.obeys fun _ => none) → report.Unrefused) := by
  refine ⟨?_, ?_, ?_, fun hfits _ _ _ _ h hobeys => unrefused_of_obeys hp hfits h hobeys⟩
  · intro refuse batching t t' r r' h h' hobeys hobeys'
    obtain ⟨report, q, rfl⟩ := exists_ok_of_obeys hp h hobeys
    obtain ⟨report', q', rfl⟩ := exists_ok_of_obeys hp h' hobeys'
    obtain ⟨log, b, hsteps, hended, rfl, rfl, rfl, hkept⟩ := exists_steps_of_makes_ok hp h
    obtain ⟨log', b', hsteps', hended', rfl, rfl, rfl, hkept'⟩ := exists_steps_of_makes_ok hp h'
    have hlog : ∀ e ∈ log.map (·.2), e.obeys refuse := fun e he => hobeys e (List.mem_append_left _ he)
    have hlog' : ∀ e ∈ log'.map (·.2), e.obeys refuse := fun e he => hobeys' e (List.mem_append_left _ he)
    have hreport := report_eq_of_obeys hp hsteps hsteps' hended hended' hlog hlog' (.refl _) (.refl _)
    have hprogress := progress_eq_of_obeys hsteps hsteps' hended hended' hlog hlog'
    refine ⟨⟨_, _, rfl, ?_⟩, fun kept => ?_, ?_⟩
    · rw [hreport, hprogress]
    · rw [hkept, hkept', hprogress]
    · rw [filterMap_submitted?_closed, filterMap_submitted?_closed]
      exact (submitted_perm hsteps hended).trans (submitted_perm hsteps' hended').symm
  · intro refuse batching log log' b b' h h' hended hended' hobeys hobeys' outcomes outcomes' hperm hperm'
    exact report_eq_of_obeys hp h h' hended hended' hobeys hobeys' hperm hperm'
  · intro batching batching' t t' report report' q q' h h' hunrefused hunrefused'
    obtain ⟨log, b, hsteps, hended, rfl, rfl, -, hkept⟩ := exists_steps_of_makes_ok hp h
    obtain ⟨log', b', hsteps', hended', rfl, rfl, -, hkept'⟩ := exists_steps_of_makes_ok hp h'
    have hsound := sound_of_steps hsteps
    have hsound' := sound_of_steps hsteps'
    refine ⟨agreeFrom_of_complete hsound hsound' (fun i hi => ?_) fun i hi => ?_, fun kept => ⟨?_, ?_⟩⟩
    · exact hsound.isOnChain_of_unrefused hp hended hunrefused hi
    · exact hsound'.isOnChain_of_unrefused hp hended' hunrefused' hi
    · rw [hkept, Function.update_self]
    · rw [hkept', Function.update_self]

end

/-- The two items in two groups of one slice, of which the first one is refused, in either order; and the two items
in two groups and in one. -/
theorem order_irrelevant_twoFreshItems :
    (∃ t t' r, Makes (run ⟨.zero, .zero, default⟩ ⟨2, 1, 1⟩ 2 twoFreshItems).run t (some r) ∧
      Makes (run ⟨.zero, .zero, default⟩ ⟨2, 1, 1⟩ 2 twoFreshItems).run t' (some r) ∧
      t.filterMap Exchange.submitted? ≠ t'.filterMap Exchange.submitted? ∧
      (t.filterMap Exchange.submitted?).Perm (t'.filterMap Exchange.submitted?)) ∧
    ∃ t t' report report' q q',
      Makes (run ⟨.zero, .zero, default⟩ ⟨2, 1, 1⟩ 2 twoFreshItems).run t (some (.ok (report, q))) ∧
      Makes (run ⟨.zero, .zero, default⟩ ⟨2, 2, 1⟩ 2 twoFreshItems).run t' (some (.ok (report', q'))) ∧
      report.written = 2 ∧ report'.written = 1 ∧ twoFreshItems.AgreeFrom q q' := by
  obtain ⟨horder, -, hbatchings, hunrefused⟩ := @order_irrelevant ⟨.zero, .zero, default⟩ 2 twoFreshItems
    covers_twoFreshItems
  constructor
  · have h := makes_transcript (judge false) (run ⟨.zero, .zero, default⟩ ⟨2, 1, 1⟩ 2 twoFreshItems).run
      [false, true, true, true]
    have h' := makes_transcript (judge true) (run ⟨.zero, .zero, default⟩ ⟨2, 1, 1⟩ 2 twoFreshItems).run
      [true, true, false, true]
    obtain ⟨⟨report, q, hr, hr'⟩, -, hperm⟩ :=
      horder (fun start => if start = 0 then some (.transaction "refused") else none) _ _ _ _ _ h h'
        (by decide +kernel) (by decide +kernel)
    rw [hr] at h
    rw [hr'] at h'
    exact ⟨_, _, _, h, h', by decide +kernel, hperm⟩
  · have hwritten : ((run ⟨.zero, .zero, default⟩ ⟨2, 1, 1⟩ 2 twoFreshItems).run.transcript (judge false)
        []).2.toOption.any (fun x => decide (x.1.written = 2)) = true := by decide +kernel
    have hwritten' : ((run ⟨.zero, .zero, default⟩ ⟨2, 2, 1⟩ 2 twoFreshItems).run.transcript (judge false)
        []).2.toOption.any (fun x => decide (x.1.written = 1)) = true := by decide +kernel
    obtain ⟨⟨report, q⟩, hreport, h⟩ := exists_makes_ok hwritten
    obtain ⟨⟨report', q'⟩, hreport', h'⟩ := exists_makes_ok hwritten'
    have hall := hunrefused fitting_twoFreshItems _ _ _ _ h (by decide +kernel)
    have hall' := hunrefused fitting_twoFreshItems _ _ _ _ h' (by decide +kernel)
    exact ⟨_, _, report, report', q, q', h, h', of_decide_eq_true hreport, of_decide_eq_true hreport',
      (hbatchings _ _ _ _ _ _ _ _ h h' hall hall').1⟩

end Upload

end MintDrop
