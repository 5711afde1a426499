import MintDrop.Proofs.Upload.Writes

/-!
# Uploads that are resumed

An upload that starts from the progress that another one has left submits a group just if an index of it was
neither marked when the first one started nor confirmed to it (`wholly_of_steps`).  In the same groups these are the
ones that the first upload submitted in vain (`resumes_unconfirmed`).
-/

namespace MintDrop

theorem Items.contains_eq_isSome_line? (p : Progress) (i : UInt32) : p.items.contains i = (p.line? i).isSome := by
  rw [Items.contains, Progress.line?, Option.isSome_map]

theorem Progress.stamp_slot (p : Progress) : p.stamp p.slot = p := rfl

/-- Progress under the same name with the same look-ups is the same. -/
theorem Progress.ext_get? {p q : Progress} (hprogram : p.program = q.program) (hslot : p.slot = q.slot)
    (hget : ∀ i, p.items.get? i = q.items.get? i) : p = q := by
  obtain ⟨program, items, env, cacheName⟩ := p
  obtain ⟨program', items', env', cacheName'⟩ := q
  obtain rfl : program = program' := hprogram
  obtain rfl : items = items' := Items.ext_get? hget
  obtain ⟨rfl, rfl⟩ : env = env' ∧ cacheName = cacheName' := Slot.mk.inj hslot
  rfl

namespace Upload

open Script

/-- Whether the lines of the indices below a count are short enough to be written. -/
def Fitting (p : Progress) (count : UInt32) : Prop := ∀ i < count, ∀ l, p.line? i = some l → l.Fits

theorem fitting_twoFreshItems : Fitting twoFreshItems 2 := by
  have hall : ∀ e ∈ twoFreshItems.items.entries, (line e.2).Fits := by
    unfold Line.Fits
    decide +kernel
  intro i _ l hl
  obtain ⟨item, hitem, rfl⟩ := Option.map_eq_some_iff.1 hl
  obtain ⟨before, after, hentries, -⟩ := List.lookup_eq_some_iff.1 hitem
  exact hall (i, item) (hentries ▸ List.mem_append_right _ List.mem_cons_self)

/-- Whether an index was neither marked in the progress at the start nor confirmed by the ledger since. -/
def leftOpen (record : Address) (p : Progress) (t : List Exchange) (i : UInt32) : Bool :=
  !p.items.isOnChain i && (Record.lastLine? (t.filterMap Exchange.confirmed?) record i).isNone

section

variable {site site' : Site} {batching batching' : Batching} {count : UInt32} {p q : Progress} {log : Log}
  {b : Board} {g : Span} {t : List Exchange}

/-! ### What a finished upload leaves -/

theorem Sound.covers {groups : List Span} (h : Sound site p groups log b) (hp : Covers p count) :
    Covers b.progress count := by
  intro i hi
  rw [Items.contains_eq_isSome_line?, h.line?_eq, ← Items.contains_eq_isSome_line?]
  exact hp i hi

theorem Sound.fitting {groups : List Span} (h : Sound site p groups log b) (hfits : Fitting p count) :
    Fitting b.progress count := by
  intro i hi l hl
  rw [h.line?_eq] at hl
  exact hfits i hi l hl

theorem exists_writing_of_mem_groups (site : Site) (hp : Covers p count) (hfits : Fitting p count)
    (hg : g ∈ batching.groups count) : ∃ tx, writing site p g = some tx := by
  refine exists_writing site fun i hi => ?_
  have hlt : i < count := (tiles_groups batching count).lt_of_mem hg hi
  have hitem := hp i hlt
  rw [Items.contains_eq_isSome_line?] at hitem
  obtain ⟨l, hl⟩ := Option.isSome_iff_exists.1 hitem
  exact ⟨l, hl, hfits i hlt l hl⟩

/-- An upload that ended with a report has saved its progress, and that is what is then kept under its name. -/
theorem exists_steps_of_makes_ok {report : Report} (hp : Covers p count)
    (h : Makes (run site batching count p).run t (some (.ok (report, q)))) :
    ∃ log b, Steps site (.start batching count p) log b ∧ b.Ended ∧ report = .ofOutcomes b.outcomes ∧
      q = b.progress ∧ t = log.map (·.2) ++ [⟨.save q.slot q, .ok ()⟩] ∧
      ∀ kept : Kept, kept.after t = Function.update kept p.slot (some q) := by
  obtain ⟨log, b, hcourse, hfinal⟩ := makes_run hp h
  obtain ⟨hended, reply, hresult, rfl⟩ := hfinal _ rfl
  cases reply with
  | error e => cases hresult
  | ok _ =>
      cases hresult
      refine ⟨log, b, hcourse.steps, hended, rfl, rfl, rfl, fun kept => funext fun slot => ?_⟩
      have hsaves := savesTo_of_steps hcourse.steps
      rw [← (sound_of_steps hcourse.steps).slot] at hsaves ⊢
      rw [Kept.after_append, Kept.after_cons, Kept.after_nil]
      by_cases hslot : slot = b.progress.slot
      · rw [hslot, kept_save, Function.update_self, Progress.stamp_slot]
      · rw [Function.update_of_ne hslot]
        exact (Function.update_of_ne hslot _ _).trans (after_of_ne hsaves hslot)

/-- Unless a group was refused, all of them are marked, even those whose progress was not saved. -/
theorem Sound.isOnChain_of_unrefused (h : Sound site p (batching.groups count) log b) (hp : Covers p count)
    (hended : b.Ended) (hunrefused : ∀ f ∈ (Report.ofOutcomes b.outcomes).failures, ∀ e, f.reason ≠ .ledger e)
    {i : UInt32} (hi : i < count) : b.progress.items.isOnChain i := by
  obtain ⟨g, hg, hig⟩ := (tiles_groups batching count).exists_mem UInt32.zero_le hi
  obtain ⟨task, htask, rfl⟩ := h.exists_task hg
  obtain ⟨outcome, houtcome, hends⟩ := h.ending hp hended task htask
  have hmem : ∀ f, outcome = .failed f → f ∈ (Report.ofOutcomes b.outcomes).failures := by
    rintro f rfl
    have houtcomes : Outcome.failed f ∈ b.outcomes := List.mem_filterMap.2 ⟨task, htask, houtcome⟩
    exact List.mem_mergeSort.2 (List.mem_filterMap.2 ⟨_, houtcomes, rfl⟩)
  have hconfirmed : log.confirms task.group → b.progress.items.isOnChain i := fun hconfirms =>
    h.isOnChain_iff.2 (Or.inr ⟨(h.marked_iff hended).2 ⟨_, hg, hig, hconfirms⟩, hp i hi⟩)
  unfold Log.confirms at hconfirmed
  cases hends with
  | skipped hwholly => exact h.isOnChain_iff.2 (Or.inl (wholly_iff.1 hwholly i hig))
  | unsent => exact absurd rfl (hunrefused _ (hmem _ rfl) _)
  | refused => exact absurd rfl (hunrefused _ (hmem _ rfl) _)
  | written _ hcalls | unsaved _ hcalls =>
      refine hconfirmed ?_
      rw [hcalls]
      rfl

theorem isOnChain_of_steps (hp : Covers p count) (h : Steps site (.start batching count p) log b)
    (hended : b.Ended) {i : UInt32} (hi : i < count) :
    b.progress.items.isOnChain i = !leftOpen site.record p (log.map (·.2)) i := by
  have hmarks := ((sound_of_steps h).isOnChain_iff (i := i)).trans
    (or_congr_right ((and_iff_left (hp i hi)).trans ((sound_of_steps h).marked_iff hended)))
  rw [← isSome_lastLine?_iff h hp] at hmarks
  rw [Bool.eq_iff_iff, hmarks, leftOpen]
  cases p.items.isOnChain i <;> simp

/-- A group has been written to the end, in whatever groups that was, if no index of it is left open. -/
theorem wholly_of_steps (hp : Covers p count) (h : Steps site (.start batching count p) log b)
    (hended : b.Ended) (hg : g ∈ batching'.groups count) :
    (!wholly b.progress g) = g.indices.any (leftOpen site.record p (log.map (·.2))) := by
  have hmarks : ∀ i ∈ g.indices, b.progress.items.isOnChain i = !leftOpen site.record p (log.map (·.2)) i := by
    intro i hi
    exact isOnChain_of_steps hp h hended ((tiles_groups batching' count).lt_of_mem hg (Span.mem_indices.1 hi))
  rw [wholly, Bool.eq_iff_iff, Bool.not_eq_true', List.all_eq_false, List.any_eq_true]
  refine exists_congr fun i => and_congr_right fun hi => ?_
  rw [hmarks i hi, Bool.not_eq_true, Bool.not_eq_false']

/-! ### Uploads that have nothing to write -/

theorem wholly_of_marked (hmarked : ∀ i < count, p.items.isOnChain i) (hg : g ∈ batching.groups count) :
    wholly p g = true :=
  wholly_iff.2 fun i hi => hmarked i ((tiles_groups batching count).lt_of_mem hg hi)

theorem Trail.eq_nil_of_wholly {stage : Stage} {calls : List Exchange} (h : Trail site p g stage calls)
    (hwholly : wholly p g = true) : calls = [] ∧ stage.isMarked = false := by
  have hskipped : begin site p g = .error .skipped := begin_eq_skipped (wholly_iff.1 hwholly)
  cases h with
  | waiting => exact ⟨rfl, rfl⟩
  | ended hbegin =>
      rw [hskipped] at hbegin
      cases hbegin
      exact ⟨rfl, rfl⟩
  | ready hbegin | refused hbegin | confirmed hbegin | unsaved hbegin | written hbegin =>
      rw [hskipped] at hbegin
      cases hbegin

/-- If all items are marked, no group makes a call and the progress stays as it is. -/
theorem eq_of_marked (h : Steps site (.start batching count p) log b) (hmarked : ∀ i < count, p.items.isOnChain i) :
    log = [] ∧ b.progress = p := by
  have hsound := sound_of_steps h
  have htrail : ∀ task ∈ b.tasks, log.calls task.group = [] ∧ task.stage.isMarked = false := fun task htask =>
    (hsound.trail task htask).eq_nil_of_wholly (wholly_of_marked hmarked (hsound.group_mem htask))
  constructor
  · refine List.eq_nil_iff_forall_not_mem.2 fun e he => ?_
    obtain ⟨task, htask, hgroup⟩ := hsound.exists_task (group_mem_of_mem_log h e he)
    have hcall := mem_calls.2 he
    rw [← hgroup, (htrail task htask).1] at hcall
    cases hcall
  · refine Progress.ext_get? hsound.program hsound.slot fun i => hsound.get?_of_not_marked ?_
    rintro ⟨task, htask, hstage, -⟩
    rw [(htrail task htask).2] at hstage
    cases hstage

theorem success_of_marked (h : Steps site (.start batching count p) log b) (hended : b.Ended)
    (hp : Covers p count) (hmarked : ∀ i < count, p.items.isOnChain i) :
    (Report.ofOutcomes b.outcomes).success := by
  have hnone : (batching.groups count).filter (leftOver p log) = [] := by
    refine List.filter_eq_nil_iff.2 fun g hg => ?_
    rw [leftOver, wholly_of_marked hmarked hg]
    exact Bool.false_ne_true
  have hfailures := ((sound_of_steps h).failures_ascending hp hended).1.trans hnone
  rw [Report.success, Report.ofOutcomes, List.map_eq_nil_iff.1 hfailures, List.mergeSort_nil]
  rfl

/-- An upload of marked items makes no call but its last save, and then succeeds. -/
theorem makes_run_of_marked {r : Except Error (Report × Progress)} (hmarked : ∀ i < count, p.items.isOnChain i)
    (h : Makes (run site batching count p).run t (some r)) :
    ∃ report, report.success ∧ ((t = [⟨.save p.slot p, .ok ()⟩] ∧ r = .ok (report, p)) ∨
      ∃ e, t = [⟨.save p.slot p, .error e⟩]) := by
  have hp : Covers p count := fun i hi => Items.contains_of_isOnChain (hmarked i hi)
  obtain ⟨log, b, hcourse, hfinal⟩ := makes_run hp h
  obtain ⟨hended, reply, hr, rfl⟩ := hfinal r rfl
  have hsuccess := success_of_marked hcourse.steps hended hp hmarked
  obtain ⟨rfl, hprogress⟩ := eq_of_marked hcourse.steps hmarked
  rw [hprogress]
  refine ⟨_, hsuccess, ?_⟩
  cases reply with
  | error e => exact Or.inr ⟨e, rfl⟩
  | ok u => exact Or.inl ⟨rfl, by rw [hr, resultOf, hprogress]⟩

/-! ### What the next upload submits -/

theorem map_some_filterMap {α β : Type} {f : α → Option β} {xs : List α} (h : ∀ x ∈ xs, ∃ y, f x = some y) :
    (xs.filterMap f).map some = xs.map f := by
  induction xs with
  | nil => rfl
  | cons x xs ih =>
      obtain ⟨⟨y, hy⟩, hxs⟩ := List.forall_mem_cons.1 h
      rw [List.filterMap_cons_some hy, List.map_cons, List.map_cons, ih hxs, hy]

theorem filterMap_closed {kind : Exchange → Option Transaction} {e : Exchange} (t : List Exchange)
    (he : kind e = none) : (t ++ [e]).filterMap kind = t.filterMap kind := by
  rw [List.filterMap_append, List.filterMap_cons_none he, List.filterMap_nil, List.append_nil]

theorem filterMap_submitted?_closed {slot : Slot} {t : List Exchange} (reply : Except StoreError Unit) :
    (t ++ [(⟨.save slot q, reply⟩ : Exchange)]).filterMap Exchange.submitted? =
      t.filterMap Exchange.submitted? :=
  filterMap_closed t rfl

theorem filterMap_confirmed?_closed {slot : Slot} {t : List Exchange} (reply : Except StoreError Unit) :
    (t ++ [(⟨.save slot q, reply⟩ : Exchange)]).filterMap Exchange.confirmed? =
      t.filterMap Exchange.confirmed? :=
  filterMap_closed t rfl

/-- The next upload submits each of its groups in which an index is left open, once, and no other. -/
theorem submitted_perm_leftOpen {t' : List Exchange} {r : Except Error (Report × Progress)} (hp : Covers p count)
    (hfits : Fitting p count) (h : Steps site (.start batching count p) log b) (hended : b.Ended)
    (h' : Makes (run site' batching' count b.progress).run t' (some r)) :
    ((t'.filterMap Exchange.submitted?).map some).Perm
      (((batching'.groups count).filter fun g => g.indices.any (leftOpen site.record p (log.map (·.2)))).map
        (writing site' p)) := by
  have hsound := sound_of_steps h
  have hcovers := hsound.covers hp
  have hfitting := hsound.fitting hfits
  obtain ⟨log', b', hcourse, hfinal⟩ := makes_run hcovers h'
  obtain ⟨hended', reply, -, rfl⟩ := hfinal _ rfl
  have hopen : ((batching'.groups count).filter fun g => g.indices.any (leftOpen site.record p (log.map (·.2)))) =
      (batching'.groups count).filter (!wholly b.progress ·) :=
    List.filter_congr fun g hg => (wholly_of_steps hp h hended hg).symm
  have hwriting : writing site' p = writing site' b.progress :=
    funext fun g => writing_congr fun i _ => (hsound.line?_eq i).symm
  have hwritings : ∀ g ∈ (batching'.groups count).filter (!wholly b.progress ·),
      ∃ tx, writing site' b.progress g = some tx := fun g hg =>
    exists_writing_of_mem_groups site' hcovers hfitting (List.mem_of_mem_filter hg)
  rw [hopen, hwriting, filterMap_submitted?_closed, ← map_some_filterMap hwritings]
  exact (submitted_perm hcourse.steps hended').map some

/-- In the same groups, an index is left open just in those that were submitted and not confirmed. -/
theorem any_leftOpen_eq (hp : Covers p count) (hfits : Fitting p count)
    (h : Steps site (.start batching count p) log b) (hended : b.Ended) (hg : g ∈ batching.groups count) :
    g.indices.any (leftOpen site.record p (log.map (·.2))) =
      (submitsWrite site p (log.map (·.2)) g && !confirmsWrite site p (log.map (·.2)) g) := by
  obtain ⟨tx, htx⟩ := exists_writing_of_mem_groups site hp hfits hg
  rw [submitsWrite_eq h hended hg, confirmsWrite_eq_confirms h hg, htx, Option.isSome_some, Bool.and_true]
  have htiles := tiles_groups batching count
  have hopen : ∀ i ∈ g.indices, leftOpen site.record p (log.map (·.2)) i =
      (!p.items.isOnChain i && !log.confirms g) := by
    intro i hi
    have hconfirms : (∃ g' ∈ batching.groups count, i ∈ g' ∧ log.confirms g') ↔ log.confirms g := by
      constructor
      · rintro ⟨g', hg', hi', hconfirms⟩
        rwa [htiles.eq_of_mem hg hg' (Span.mem_indices.1 hi) hi']
      · exact fun hconfirms => ⟨g, hg, Span.mem_indices.1 hi, hconfirms⟩
    rw [leftOpen, ← Option.not_isSome, Bool.eq_iff_iff.2 ((isSome_lastLine?_iff h hp).trans hconfirms)]
  rw [wholly, Bool.eq_iff_iff, List.any_eq_true, Bool.and_eq_true, Bool.not_eq_true', List.all_eq_false]
  constructor
  · rintro ⟨i, hi, hleft⟩
    rw [hopen i hi, Bool.and_eq_true, Bool.not_eq_true'] at hleft
    exact ⟨⟨i, hi, Bool.not_eq_true _ ▸ hleft.1⟩, hleft.2⟩
  · rintro ⟨⟨i, hi, hunmarked⟩, hconfirms⟩
    rw [Bool.not_eq_true] at hunmarked
    refine ⟨i, hi, ?_⟩
    rw [hopen i hi, hunmarked, hconfirms]
    rfl

/-- After an upload whose last save succeeded, the next one of the same groups submits once each of those that were
submitted and not confirmed, and no other: a group that was confirmed is not submitted again, even if its own save
failed.  The next upload in other groups submits those in which an index was neither marked at the start nor
confirmed. -/
theorem resumes_unconfirmed {report : Report} (kept : Kept) (hp : Covers p count) (hfits : Fitting p count)
    (h : Makes (run site batching count p).run t (some (.ok (report, q)))) :
    kept.after t p.slot = some q ∧
      (∀ site' t' r, Makes (run site' batching count q).run t' (some r) →
        ((t'.filterMap Exchange.submitted?).map some).Perm
          (((batching.groups count).filter fun g => submitsWrite site p t g && !confirmsWrite site p t g).map
            (writing site' p)) ∧
        ∀ g ∈ batching.groups count, confirmsWrite site p t g → submitsWrite site' p t' g = false) ∧
      ∀ site' batching' t' r, Makes (run site' batching' count q).run t' (some r) →
        ((t'.filterMap Exchange.submitted?).map some).Perm
          (((batching'.groups count).filter fun g => g.indices.any (leftOpen site.record p t)).map
            (writing site' p)) := by
  obtain ⟨log, b, hsteps, hended, -, rfl, rfl, hkept⟩ := exists_steps_of_makes_ok hp h
  have hopen : leftOpen site.record p (log.map (·.2) ++ [⟨.save b.progress.slot b.progress, .ok ()⟩]) =
      leftOpen site.record p (log.map (·.2)) := by
    funext i
    rw [leftOpen, filterMap_confirmed?_closed, leftOpen]
  have hsame : ∀ g ∈ batching.groups count,
      (submitsWrite site p (log.map (·.2) ++ [⟨.save b.progress.slot b.progress, .ok ()⟩]) g &&
        !confirmsWrite site p (log.map (·.2) ++ [⟨.save b.progress.slot b.progress, .ok ()⟩]) g) =
      g.indices.any (leftOpen site.record p (log.map (·.2))) := by
    intro g hg
    rw [any_leftOpen_eq hp hfits hsteps hended hg, submitsWrite, confirmsWrite, filterMap_submitted?_closed,
      filterMap_confirmed?_closed]
    rfl
  rw [hopen]
  refine ⟨?_, fun site' t' r h' => ?_, fun site' batching' t' r h' =>
    submitted_perm_leftOpen hp hfits hsteps hended h'⟩
  · rw [hkept, Function.update_self]
  have hperm := submitted_perm_leftOpen hp hfits hsteps hended h'
  rw [← List.filter_congr hsame] at hperm
  refine ⟨hperm, fun g hg hconfirms => ?_⟩
  by_contra hsubmits
  rw [Bool.not_eq_false, submitsWrite_iff] at hsubmits
  obtain ⟨tx, hwriting, htx⟩ := hsubmits
  obtain ⟨g', hg', hwriting'⟩ := List.mem_map.1 (hperm.mem_iff.1 (List.mem_map_of_mem htx))
  obtain ⟨hg', hunconfirmed⟩ := List.mem_filter.1 hg'
  rw [(tiles_groups batching count).eq_of_start hg' hg (writing_injective hwriting' hwriting), hconfirms,
    Bool.not_true, Bool.and_false] at hunconfirmed
  cases hunconfirmed

end

/-- The first group is refused and the second one confirmed, but not saved. -/
theorem resumes_unconfirmed_twoFreshItems :
    ∃ t report q t' r,
      Makes (run ⟨.zero, .zero, default⟩ ⟨1, 1, 1⟩ 2 twoFreshItems).run t (some (.ok (report, q))) ∧
      report.written = 0 ∧
      Makes (run ⟨.zero, .zero, default⟩ ⟨1, 1, 1⟩ 2 q).run t' (some r) ∧
      (t'.filterMap Exchange.submitted?).length = 1 := by
  have hwritten : ((run ⟨.zero, .zero, default⟩ ⟨1, 1, 1⟩ 2 twoFreshItems).run.transcript (judge false)
      [false, true, false]).2.toOption.any (fun x => decide (x.1.written = 0)) = true := by decide +kernel
  obtain ⟨⟨report, q⟩, hreport, hmakes⟩ := exists_makes_ok hwritten
  obtain ⟨-, hresumed, -⟩ := resumes_unconfirmed .empty covers_twoFreshItems fitting_twoFreshItems hmakes
  have hmakes' := makes_transcript (judge false) (run ⟨.zero, .zero, default⟩ ⟨1, 1, 1⟩ 2 q).run []
  have hlength := (hresumed _ _ _ hmakes').1.length_eq
  rw [List.length_map, List.length_map] at hlength
  refine ⟨_, report, q, _, _, hmakes, of_decide_eq_true hreport, hmakes', hlength.trans ?_⟩
  decide +kernel

end Upload

end MintDrop
