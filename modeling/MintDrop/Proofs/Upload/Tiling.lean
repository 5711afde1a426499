import Mathlib.Data.List.Forall2
import MintDrop.Proofs.Upload.Resume

/-!
# The lines that an upload writes

What an upload submits are the groups of its log (`Log.groupsWith`), each of them once, and each transaction holds
just the lines of its group (`writesGroup_of_mem_log`).  Groups do not overlap, so that a record has the lines of the
items in the groups that were confirmed, in whatever order it carries them out, and is left as it was elsewhere
(`submissions_tile`).
-/

namespace MintDrop

/-- In a list of distinct pieces of a tiling, the pieces with an index of one of them are that piece alone. -/
theorem Tiles.countP_mem {a b : UInt32} {all gs : List Span} {g : Span} {i : UInt32} (h : Tiles a all b)
    (hall : ∀ x ∈ gs, x ∈ all) (hnodup : gs.Nodup) (hg : g ∈ gs) (hi : i ∈ g) : gs.countP (i ∈ ·) = 1 := by
  have hcount : gs.countP (i ∈ ·) = gs.count g := by
    refine List.countP_congr fun x hx => ?_
    rw [decide_eq_true_eq, beq_iff_eq]
    exact ⟨fun hix => h.eq_of_mem (hall x hx) (hall g hg) hix hi, fun hxg => hxg ▸ hi⟩
  rw [hcount, List.count_eq_one_of_mem hnodup hg]

theorem Tiles.countP_mem_le {a b : UInt32} {all gs : List Span} (h : Tiles a all b) (hall : ∀ x ∈ gs, x ∈ all)
    (hnodup : gs.Nodup) (i : UInt32) : gs.countP (i ∈ ·) ≤ 1 := by
  by_cases hex : ∃ g ∈ gs, i ∈ g
  · obtain ⟨g, hg, hi⟩ := hex
    exact Nat.le_of_eq (h.countP_mem hall hnodup hg hi)
  · have hzero : gs.countP (i ∈ ·) = 0 :=
      List.countP_eq_zero.2 fun g hg hi => hex ⟨g, hg, of_decide_eq_true hi⟩
    omega

namespace Upload

open Script

/-- Whether a transaction writes the lines of a group of consecutive indices, and nothing else. -/
structure WritesGroup (site : Site) (batching : Batching) (count : UInt32) (p : Progress) (tx : Transaction)
    (g : Span) : Prop where
  nonempty : g.start < g.stop
  length : g.stop.toNat - g.start.toNat ≤ max batching.groupSize 1
  slice : ∃ k, k * max batching.outerBatchSize 1 ≤ g.start.toNat ∧
    g.stop.toNat ≤ (k + 1) * max batching.outerBatchSize 1
  bound : g.stop ≤ count
  lines : ∃ instruction lines, tx = ⟨site.authority.address, [site.authority], [instruction]⟩ ∧
    Record.addLines site.program site.record site.authority.address g.start lines = .ok instruction ∧
    Record.written? instruction = some (site.record, g.start, lines) ∧ lines.map some = g.indices.map p.line?

/-- The groups with a call of a kind, in the order of these calls. -/
def Log.groupsWith (kind : Exchange → Option Transaction) (log : Log) : List Span :=
  (log.filter fun e => (kind e.2).isSome).map (·.1)

section

variable {site : Site} {batching : Batching} {count : UInt32} {p : Progress} {log : Log} {b : Board} {g : Span}
  {stage : Stage} {calls t : List Exchange} {tx : Transaction} {kind : Exchange → Option Transaction}

/-! ### Calls of a kind -/

theorem mem_groupsWith : g ∈ log.groupsWith kind ↔ (log.calls g).any fun e => (kind e).isSome := by
  rw [Log.groupsWith, List.mem_map, List.any_eq_true]
  constructor
  · rintro ⟨⟨g, e⟩, he, rfl⟩
    obtain ⟨hmem, hkind⟩ := List.mem_filter.1 he
    exact ⟨e, mem_calls.2 hmem, hkind⟩
  · rintro ⟨e, he, hkind⟩
    exact ⟨(g, e), List.mem_filter.2 ⟨mem_calls.1 he, hkind⟩, rfl⟩

theorem count_groupsWith (kind : Exchange → Option Transaction) (log : Log) (g : Span) :
    (log.groupsWith kind).count g = (log.calls g).countP fun e => (kind e).isSome := by
  rw [Log.groupsWith, Log.calls, List.count, List.countP_map, List.countP_filter, List.countP_map, List.countP_filter]
  refine List.countP_congr fun e _ => ?_
  simp [and_comm]

/-- The transactions of a kind in the order of their groups. -/
theorem forall₂_groupsWith {P : Transaction → Span → Prop} (h : ∀ g e tx, (g, e) ∈ log → kind e = some tx → P tx g) :
    List.Forall₂ P ((log.map (·.2)).filterMap kind) (log.groupsWith kind) := by
  induction log with
  | nil => exact .nil
  | cons entry log ih =>
      obtain ⟨g, e⟩ := entry
      have hrest := ih fun g' e' tx he hkind => h g' e' tx (List.mem_cons_of_mem _ he) hkind
      rw [List.map_cons]
      cases hkind : kind e with
      | none =>
          rw [List.filterMap_cons_none hkind, Log.groupsWith, List.filter_cons_of_neg (by simp [hkind])]
          exact hrest
      | some tx =>
          rw [List.filterMap_cons_some hkind, Log.groupsWith, List.filter_cons_of_pos (by simp [hkind])]
          exact .cons (h g e tx List.mem_cons_self hkind) hrest

/-- What is confirmed was submitted. -/
theorem groupsWith_confirmed_sublist (log : Log) :
    (log.groupsWith Exchange.confirmed?).Sublist (log.groupsWith Exchange.submitted?) := by
  refine (List.monotone_filter_right log fun e he => ?_).map _
  obtain ⟨tx, htx⟩ := Option.isSome_iff_exists.1 he
  rw [Exchange.submitted?_of_confirmed? htx]
  rfl

/-! ### The submissions of a log -/

theorem mem_groups_of_mem_groupsWith (h : Steps site (.start batching count p) log b)
    (hg : g ∈ log.groupsWith kind) : g ∈ batching.groups count := by
  obtain ⟨e, he, rfl⟩ := List.mem_map.1 hg
  exact group_mem_of_mem_log h e (List.mem_of_mem_filter he)

theorem Trail.countP_submitted_le (h : Trail site p g stage calls) :
    calls.countP (fun e => e.submitted?.isSome) ≤ 1 := by
  cases h <;> simp [Exchange.submitted?]

/-- No group is submitted twice. -/
theorem nodup_groupsWith_submitted (h : Steps site (.start batching count p) log b) :
    (log.groupsWith Exchange.submitted?).Nodup := by
  refine List.nodup_iff_count_le_one.2 fun g => ?_
  by_cases hg : g ∈ log.groupsWith Exchange.submitted?
  · obtain ⟨task, htask, rfl⟩ := (sound_of_steps h).exists_task (mem_groups_of_mem_groupsWith h hg)
    rw [count_groupsWith]
    exact ((sound_of_steps h).trail task htask).countP_submitted_le
  · rw [List.count_eq_zero_of_not_mem hg]
    exact Nat.zero_le 1

theorem writesGroup_of_mem_log {e : Exchange} (h : Steps site (.start batching count p) log b) (he : (g, e) ∈ log)
    (htx : e.submitted? = some tx) : WritesGroup site batching count p tx g := by
  obtain ⟨hg, hbegin⟩ := begin_of_mem_log h he htx
  obtain ⟨-, hne, hcount⟩ := (tiles_groups batching count).bounds hg
  obtain ⟨lines, instruction, hlines, hadd, rfl⟩ := writing_eq_some (begin_eq_ok_iff.1 hbegin).2
  exact
    { nonempty := hne
      length := length_le_of_mem_groups hg
      slice := exists_slice_of_mem_groups hg
      bound := hcount
      lines := ⟨instruction, lines, rfl, hadd, Record.written?_addLines hadd, map_some_of_mapM hlines⟩ }

/-- Only a group with an index that was not marked at the start is submitted. -/
theorem exists_unmarked_of_submitted (h : Steps site (.start batching count p) log b)
    (hg : g ∈ log.groupsWith Exchange.submitted?) : ∃ i ∈ g, ¬ p.items.isOnChain i := by
  obtain ⟨e, he, hsubmitted⟩ := List.any_eq_true.1 (mem_groupsWith.1 hg)
  obtain ⟨tx, htx⟩ := Option.isSome_iff_exists.1 hsubmitted
  by_contra hnone
  refine (begin_eq_ok (begin_of_mem_log h (mem_calls.1 he) htx).2).1 fun i hi => ?_
  by_contra hunmarked
  exact hnone ⟨i, hi, hunmarked⟩

/-- Once the groups have ended, each of them with an index that was not marked at the start was submitted. -/
theorem submitted_of_unmarked (hp : Covers p count) (hfits : Fitting p count)
    (h : Steps site (.start batching count p) log b) (hended : b.Ended) (hg : g ∈ batching.groups count) {i : UInt32}
    (hi : i ∈ g) (hunmarked : ¬ p.items.isOnChain i) : g ∈ log.groupsWith Exchange.submitted? := by
  obtain ⟨tx, hwriting⟩ := exists_writing_of_mem_groups site hp hfits hg
  have hwholly : wholly p g = false := Bool.eq_false_iff.2 fun hall => hunmarked (wholly_iff.1 hall i hi)
  have hbegin : begin site p g = .ok tx := begin_eq_ok_iff.2 ⟨hwholly, hwriting⟩
  obtain ⟨task, htask, rfl⟩ := (sound_of_steps h).exists_task hg
  have hcalls := ((sound_of_steps h).trail task htask).filterMap_submitted? (hended task htask)
  rw [hbegin] at hcalls
  have hmem : tx ∈ (log.calls task.group).filterMap Exchange.submitted? := by
    rw [hcalls]
    exact List.mem_singleton_self tx
  obtain ⟨e, he, htx⟩ := List.mem_filterMap.1 hmem
  exact mem_groupsWith.2 (List.any_eq_true.2 ⟨e, he, Option.isSome_iff_exists.2 ⟨tx, htx⟩⟩)

/-! ### The lines of the record -/

/-- The order in which the confirmed transactions are carried out does not matter. -/
theorem linesAfter_confirmed {txs : List Transaction} (hp : Covers p count)
    (h : Steps site (.start batching count p) log b)
    (htxs : txs.Perm ((log.map (·.2)).filterMap Exchange.confirmed?)) (before : UInt32 → Option Line) (i : UInt32) :
    Record.linesAfter site.record before txs i =
      if ∃ g ∈ log.groupsWith Exchange.confirmed?, i ∈ g then p.line? i else before i := by
  rw [Record.linesAfter_apply]
  cases hlast : Record.lastLine? txs site.record i with
  | some line =>
      obtain ⟨tx, htx, hwrites⟩ := Record.exists_writes_of_lastLine? hlast
      obtain ⟨⟨g, -, hi, hconfirms⟩, hline⟩ := line?_of_confirmed h (htxs.mem_iff.1 htx) hwrites
      rw [if_pos ⟨g, mem_groupsWith.2 hconfirms, hi⟩, hline, Option.some_or]
  | none =>
      refine (if_neg ?_).symm
      rintro ⟨g, hg, hi⟩
      obtain ⟨tx, htx, line, hwrites⟩ :=
        exists_writes_of_confirms hp h (mem_groups_of_mem_groupsWith h hg) (mem_groupsWith.1 hg) hi
      exact Record.lastLine?_ne_none_of_writes (htxs.mem_iff.2 htx) hwrites hlast

/-! ### Whole uploads -/

/-- The last save of an upload is no submission. -/
theorem Course.filterMap_eq {start : Board} (h : Course site start log b t)
    (hsave : ∀ slot q reply, kind ⟨.save slot q, reply⟩ = none) :
    t.filterMap kind = (log.map (·.2)).filterMap kind := by
  cases h with
  | working => rfl
  | closed reply =>
      exact filterMap_closed _ (hsave _ _ reply)

end

/-- What the calls `t` of an upload submit, if these are the groups of the submissions and of those that were
confirmed, each in their order. -/
structure Submissions (site : Site) (batching : Batching) (count : UInt32) (p : Progress) (t : List Exchange)
    (groups written : List Span) : Prop where
  submitted : List.Forall₂ (WritesGroup site batching count p) (t.filterMap Exchange.submitted?) groups
  confirmed : List.Forall₂ (WritesGroup site batching count p) (t.filterMap Exchange.confirmed?) written
  sublist : written.Sublist groups
  /-- No index is written by two submissions. -/
  once : ∀ i, groups.countP (i ∈ ·) ≤ 1
  needed : ∀ g ∈ groups, ∃ i ∈ g, ¬ p.items.isOnChain i
  lines : ∀ txs, txs.Perm (t.filterMap Exchange.confirmed?) → ∀ before i,
    Record.linesAfter site.record before txs i = if ∃ g ∈ written, i ∈ g then p.line? i else before i
  beyond : ∀ txs, txs.Perm (t.filterMap Exchange.confirmed?) → ∀ before i, count ≤ i →
    Record.linesAfter site.record before txs i = before i

section

variable {site : Site} {batching : Batching} {count : UInt32} {p : Progress} {log : Log} {b : Board}
  {t : List Exchange}

theorem Course.submissions (hp : Covers p count) (h : Course site (.start batching count p) log b t) :
    Submissions site batching count p t (log.groupsWith Exchange.submitted?)
      (log.groupsWith Exchange.confirmed?) := by
  have hsubmitted : t.filterMap Exchange.submitted? = (log.map (·.2)).filterMap Exchange.submitted? :=
    h.filterMap_eq fun _ _ _ => rfl
  have hconfirmed : t.filterMap Exchange.confirmed? = (log.map (·.2)).filterMap Exchange.confirmed? :=
    h.filterMap_eq fun _ _ _ => rfl
  refine
    { submitted := ?_
      confirmed := ?_
      sublist := groupsWith_confirmed_sublist log
      once := (tiles_groups batching count).countP_mem_le
        (fun g hg => mem_groups_of_mem_groupsWith h.steps hg) (nodup_groupsWith_submitted h.steps)
      needed := fun g hg => exists_unmarked_of_submitted h.steps hg
      lines := fun txs htxs before i => linesAfter_confirmed hp h.steps (hconfirmed ▸ htxs) before i
      beyond := fun txs htxs before i hi => ?_ }
  · rw [hsubmitted]
    exact forall₂_groupsWith fun g e tx he htx => writesGroup_of_mem_log h.steps he htx
  · rw [hconfirmed]
    exact forall₂_groupsWith fun g e tx he htx =>
      writesGroup_of_mem_log h.steps he (Exchange.submitted?_of_confirmed? htx)
  · rw [linesAfter_confirmed hp h.steps (hconfirmed ▸ htxs), if_neg]
    rintro ⟨g, hg, hig⟩
    have hlt := (tiles_groups batching count).lt_of_mem (mem_groups_of_mem_groupsWith h.steps hg) hig
    exact UInt32.lt_irrefl i (UInt32.lt_of_lt_of_le hlt hi)

/-- Whenever an upload is cut off, its submissions write the lines of groups that lie in one slice each and do not
overlap, and all of them have an index that was not marked at the start.  An upload that comes to its end has submitted
each such index once.  A record has the lines of the items in the groups that were confirmed, and is left as it was
elsewhere. -/
theorem submissions_tile {r : Option (Except Error (Report × Progress))} (hp : Covers p count)
    (h : Makes (run site batching count p).run t r) :
    ∃ groups written, Submissions site batching count p t groups written ∧
      (Fitting p count → r.isSome → ∀ i < count, ¬ p.items.isOnChain i → groups.countP (i ∈ ·) = 1) := by
  obtain ⟨log, b, hcourse, hfinal⟩ := makes_run hp h
  refine ⟨_, _, hcourse.submissions hp, fun hfits hr i hi hunmarked => ?_⟩
  obtain ⟨result, rfl⟩ := Option.isSome_iff_exists.1 hr
  have hsteps := hcourse.steps
  have htiles := tiles_groups batching count
  obtain ⟨g, hg, hig⟩ := htiles.exists_mem UInt32.zero_le hi
  exact htiles.countP_mem (fun x hx => mem_groups_of_mem_groupsWith hsteps hx) (nodup_groupsWith_submitted hsteps)
    (submitted_of_unmarked hp hfits hsteps (hfinal _ rfl).1 hg hig hunmarked) hig

end

/-- The first of two groups is refused and the second one confirmed. -/
theorem submissions_tile_twoFreshItems :
    ∃ t r groups written, Makes (run ⟨.zero, .zero, default⟩ ⟨2, 1, 1⟩ 2 twoFreshItems).run t r ∧
      Submissions ⟨.zero, .zero, default⟩ ⟨2, 1, 1⟩ 2 twoFreshItems t groups written ∧ groups.length = 2 ∧
      written.length = 1 ∧ groups.countP (0 ∈ ·) = 1 ∧ groups.countP (1 ∈ ·) = 1 := by
  have h := makes_transcript (judge false) (run ⟨.zero, .zero, default⟩ ⟨2, 1, 1⟩ 2 twoFreshItems).run
    [false, true, true, true]
  obtain ⟨groups, written, hsubmissions, hall⟩ := submissions_tile covers_twoFreshItems h
  have honce := hall fitting_twoFreshItems rfl
  exact ⟨_, _, groups, written, h, hsubmissions, hsubmissions.submitted.length_eq.symm.trans (by decide +kernel),
    hsubmissions.confirmed.length_eq.symm.trans (by decide +kernel), honce 0 (by decide) (by decide +kernel),
    honce 1 (by decide) (by decide +kernel)⟩

end Upload

end MintDrop
