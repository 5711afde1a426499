import MintDrop.Proofs.Upload.Course

/-!
# The progress that an upload saves

`Progress.Advances p q` says that `q` has all marks of `p` and is otherwise the same.  The progress that an upload
hands to the store advances from save to save.  `Snapshots` is the invariant of its steps: whatever was handed to
the store advances to the shared progress, and what was saved last has the marks of all groups that count as
written (`snapshots_of_steps`).
-/

namespace MintDrop

/-- Whether progress differs from earlier progress by more marks at most. -/
structure Progress.Advances (p q : Progress) : Prop where
  program : q.program = p.program
  line? : ∀ i, q.line? i = p.line? i
  isOnChain : ∀ i, p.items.isOnChain i → q.items.isOnChain i

namespace Progress.Advances

theorem refl (p : Progress) : p.Advances p := ⟨rfl, fun _ => rfl, fun _ h => h⟩

theorem trans {p q r : Progress} (h : p.Advances q) (h' : q.Advances r) : p.Advances r where
  program := h'.program.trans h.program
  line? i := (h'.line? i).trans (h.line? i)
  isOnChain i hi := h'.isOnChain i (h.isOnChain i hi)

end Progress.Advances

namespace Upload

open Script

variable {site : Site} {batching : Batching} {count : UInt32} {p q : Progress} {log acts : Log} {b b' : Board}
  {t : List Exchange}

theorem advances_mark {g : Span} (hg : g.start < g.stop) : p.Advances (mark p g) where
  program := rfl
  line? := line?_mark hg
  isOnChain i hi := by
    rw [isOnChain_mark hg, hi]
    rfl

/-- The progress that was handed to the store, the first one first. -/
def Log.offered (log : Log) : List Progress := log.filterMap (·.2.offered?)

theorem offered_eq_filterMap (log : Log) : log.offered = (log.map (·.2)).filterMap Exchange.offered? := by
  rw [Log.offered, List.filterMap_map]
  rfl

/-- What holds of the saved progress after any steps. -/
structure Snapshots (p : Progress) (log : Log) (b : Board) : Prop where
  chain : (p :: (log.offered ++ [b.progress])).Pairwise Progress.Advances
  written : ∀ task ∈ b.tasks, task.stage = .ended .written →
    ∃ q, lastSaved? (log.map (·.2)) = some q ∧ ∀ i ∈ task.group, q.items.isOnChain i

/-! ### Chains -/

/-- The last of a chain may be repeated, and then followed by what it advances to. -/
theorem pairwise_advances_concat {l : List Progress} (h : (l ++ [p]).Pairwise Progress.Advances)
    (hpq : p.Advances q) : (l ++ [q] ++ [q]).Pairwise Progress.Advances := by
  rw [List.pairwise_append] at h
  obtain ⟨hl, -, hlast⟩ := h
  have hlq : ∀ x ∈ l, x.Advances q := fun x hx => (hlast x hx p List.mem_cons_self).trans hpq
  rw [List.append_assoc, List.pairwise_append]
  refine ⟨hl, ?_, ?_⟩
  · simpa using Progress.Advances.refl q
  · intro x hx y hy
    obtain rfl : y = q := by simpa using hy
    exact hlq x hx

/-! ### The invariant -/

theorem Sound.isOnChain_of_written {groups : List Span} (h : Sound site p groups log b) (hp : Covers p count)
    (htiles : Tiles 0 groups count) {task : Task} (ht : task ∈ b.tasks)
    (hwritten : task.stage = .ended .written) : ∀ i ∈ task.group, b.progress.items.isOnChain i := by
  intro i hi
  have hlt : i < count := htiles.lt_of_mem (h.group_mem ht) hi
  refine h.isOnChain_iff.2 (Or.inr ⟨⟨task, ht, ?_, hi⟩, hp i hlt⟩)
  rw [hwritten]
  rfl

/-- A group that is written was so before the step of another one. -/
theorem mem_of_mem_put {k : ℕ} {task task' : Task} {stage : Stage} (hnodup : (b.tasks.map (·.group)).Nodup)
    (ht : b.tasks[k]? = some task) (hstage : stage ≠ .ended .written)
    (ht' : task' ∈ (b.put k stage q).tasks) (hwritten : task'.stage = .ended .written) : task' ∈ b.tasks := by
  rcases (mem_put hnodup ht).1 ht' with rfl | ⟨hmem, -⟩
  · exact absurd hwritten hstage
  · exact hmem

theorem ne_written_of_isMarked {stage : Stage} (h : stage.isMarked = false) : stage ≠ .ended .written := by
  rintro rfl
  cases h

theorem Snapshots.step {groups : List Span} (h : Snapshots p log b) (hsound : Sound site p groups log b)
    (hp : Covers p count) (htiles : Tiles 0 groups count) (hstep : Step site b acts b') :
    Snapshots p (log ++ acts) b' := by
  have hsound' := hsound.step htiles hstep
  have hnodup := hsound.nodup htiles
  cases hstep with
  | @read k task ht hstage =>
      rw [List.append_nil]
      refine ⟨h.chain, fun t' ht' hwritten => ?_⟩
      have hstage' := ne_written_of_isMarked (isMarked_begun site b.progress task.group)
      exact h.written t' (mem_of_mem_put hnodup ht hstage' ht' hwritten) hwritten
  | @answer k task tx reply ht hstage =>
      have hoffered : (log ++ [(task.group, (⟨.submit tx, reply⟩ : Exchange))]).offered = log.offered := by
        rw [Log.offered, List.filterMap_append]
        exact List.append_nil _
      refine ⟨?_, fun t' ht' hwritten => ?_⟩
      · rw [hoffered]
        exact h.chain
      · rw [List.map_append, List.map_singleton, lastSaved?_concat]
        have hstage' := ne_written_of_isMarked (isMarked_answered task.group reply)
        exact h.written t' (mem_of_mem_put hnodup ht hstage' ht' hwritten) hwritten
  | @save k task signature reply ht hstage =>
      have hoffered : (log ++ [(task.group, (⟨.save b.progress.slot (mark b.progress task.group), reply⟩ :
          Exchange))]).offered = log.offered ++ [mark b.progress task.group] := by
        rw [Log.offered, List.filterMap_append]
        rfl
      have hgroup := htiles.start_lt_stop (hsound.group_mem (List.mem_of_getElem? ht))
      refine ⟨?_, fun t' ht' hwritten => ?_⟩
      · rw [hoffered]
        exact pairwise_advances_concat (l := p :: log.offered) h.chain (advances_mark hgroup)
      · rw [List.map_append, List.map_singleton, lastSaved?_concat]
        cases reply with
        | ok u =>
            exact ⟨_, rfl, hsound'.isOnChain_of_written hp htiles ht' hwritten⟩
        | error e =>
            have hstage' : saved task.group signature (.error e) ≠ .ended .written := fun heq => by cases heq
            exact h.written t' (mem_of_mem_put hnodup ht hstage' ht' hwritten) hwritten

theorem snapshots_start : Snapshots p [] (Board.start batching count p) := by
  refine ⟨?_, fun task ht hwritten => ?_⟩
  · change (p :: [p]).Pairwise Progress.Advances
    simpa using Progress.Advances.refl p
  · rw [stage_start ht] at hwritten
    cases hwritten

/-- The invariant holds after any steps in any order. -/
theorem snapshots_of_steps (hp : Covers p count) (h : Steps site (Board.start batching count p) log b) :
    Snapshots p log b := by
  induction h with
  | refl => exact snapshots_start
  | tail hsteps hstep ih => exact ih.step (sound_of_steps hsteps) hp (tiles_groups batching count) hstep

/-! ### Courses -/

/-- What an upload submits are the transactions of its groups. -/
theorem Course.begin_of_submitted {e : Exchange} {tx : Transaction}
    (h : Course site (Board.start batching count p) log b t) (he : e ∈ t) (htx : e.submitted? = some tx) :
    ∃ g ∈ batching.groups count, begin site p g = .ok tx := by
  cases h with
  | working h => exact Upload.begin_of_submitted h he htx
  | closed reply h =>
      rcases List.mem_append.1 he with he | he
      · exact Upload.begin_of_submitted h he htx
      · obtain rfl := List.mem_singleton.1 he
        cases htx

theorem Course.mem_of_mem_log {g : Span} {e : Exchange}
    (h : Course site (Board.start batching count p) log b t) (he : (g, e) ∈ log) : e ∈ t := by
  cases h with
  | working => exact List.mem_map_of_mem he
  | closed reply => exact List.mem_append_left _ (List.mem_map_of_mem he)

theorem Course.savesTo (h : Course site (Board.start batching count p) log b t) : SavesTo p.slot t := by
  cases h with
  | working h => exact savesTo_of_steps h
  | closed reply h =>
      refine savesTo_append.2 ⟨savesTo_of_steps h, savesTo_cons.2 ⟨fun slot' q heq => ?_, savesTo_nil⟩⟩
      cases heq
      exact (sound_of_steps h).slot

/-- The progress handed to the store advances from save to save. -/
theorem Course.chain (h : Course site (Board.start batching count p) log b t) (hp : Covers p count) :
    (p :: t.filterMap Exchange.offered?).Pairwise Progress.Advances ∧
      ∀ q ∈ t.filterMap Exchange.offered?, q.Advances b.progress := by
  have hchain := (snapshots_of_steps hp h.steps).chain
  rw [offered_eq_filterMap, ← List.cons_append] at hchain
  obtain ⟨hbefore, -, hlast⟩ := List.pairwise_append.1 hchain
  have hlast' : ∀ q ∈ (log.map (·.2)).filterMap Exchange.offered?, q.Advances b.progress :=
    fun q hq => hlast q (List.mem_cons_of_mem p hq) _ List.mem_cons_self
  cases h with
  | working => exact ⟨hbefore, hlast'⟩
  | closed reply =>
      rw [List.filterMap_append]
      refine ⟨hchain, fun q hq => ?_⟩
      rcases List.mem_append.1 hq with hq | hq
      · exact hlast' q hq
      · obtain rfl : q = b.progress := List.mem_singleton.1 hq
        exact .refl _

theorem mem_offered_of_lastSaved (h : lastSaved? t = some q) : q ∈ t.filterMap Exchange.offered? := by
  obtain ⟨e, he, hsaved⟩ := List.mem_filterMap.1 (List.mem_of_getLast? h)
  exact List.mem_filterMap.2 ⟨e, he, Exchange.offered?_of_saved? hsaved⟩

/-- What was saved last has the marks of all groups that count as written. -/
theorem Course.written (h : Course site (Board.start batching count p) log b t) (hp : Covers p count)
    {task : Task} (ht : task ∈ b.tasks) (hwritten : task.stage = .ended .written) :
    ∃ q, lastSaved? t = some q ∧ ∀ i ∈ task.group, q.items.isOnChain i := by
  have hsnapshots := snapshots_of_steps hp h.steps
  have hsound := sound_of_steps h.steps
  cases h with
  | working => exact hsnapshots.written task ht hwritten
  | closed reply =>
      rw [lastSaved?_concat]
      cases reply with
      | ok u => exact ⟨_, rfl, hsound.isOnChain_of_written hp (tiles_groups batching count) ht hwritten⟩
      | error e => exact hsnapshots.written task ht hwritten

/-- A mark that was handed to the store was there at the start, or the ledger had confirmed the line. -/
theorem Course.isOnChain (h : Course site (Board.start batching count p) log b t) (hp : Covers p count)
    (hq : q ∈ t.filterMap Exchange.offered?) {i : UInt32} (hi : q.items.isOnChain i) :
    p.items.isOnChain i ∨ ∃ tx ∈ t.filterMap Exchange.confirmed?, ∃ line, p.line? i = some line ∧
      Record.Writes tx site.record i line := by
  have hsound := sound_of_steps h.steps
  rcases hsound.isOnChain_iff.1 (((h.chain hp).2 q hq).isOnChain i hi) with hp' | ⟨⟨task, ht, hmarked, hmem⟩, hitem⟩
  · exact Or.inl hp'
  · right
    obtain ⟨tx, signature, hbegin, hcall⟩ := (hsound.trail task ht).confirmed_of_isMarked hmarked
    obtain ⟨item, hitem⟩ := Option.isSome_iff_exists.1 hitem
    have hline : p.line? i = some (line item) := by rw [Progress.line?, hitem, Option.map_some]
    refine ⟨tx, ?_, line item, hline, (writes_begin_iff hbegin).2 ⟨⟨rfl, hmem⟩, hline⟩⟩
    exact List.mem_filterMap.2 ⟨_, h.mem_of_mem_log (mem_calls.1 hcall), rfl⟩

/-- The ledger confirms no line of the record but those of the items. -/
theorem Course.line?_of_writes (h : Course site (Board.start batching count p) log b t) {tx : Transaction}
    (htx : tx ∈ t.filterMap Exchange.confirmed?) {i : UInt32} {line : Line}
    (hwrites : Record.Writes tx site.record i line) : p.line? i = some line := by
  obtain ⟨e, he, hconfirmed⟩ := List.mem_filterMap.1 htx
  obtain ⟨g, -, hbegin⟩ := h.begin_of_submitted he (Exchange.submitted?_of_confirmed? hconfirmed)
  exact ((writes_begin_iff hbegin).1 hwrites).2

/-- Every run of an upload that has its items, cut off at any moment, is a course of it.  At any moment of any
course, the progress handed to the store has only gained marks from save to save, and what was saved last has
the marks of all groups that count as written and none that was neither there at the start nor confirmed. -/
theorem saved_progress_sound (hp : Covers p count) :
    (∀ t r, Makes (run site batching count p).run t r →
      ∃ log b, Course site (.start batching count p) log b t) ∧
    ∀ log b t, Course site (.start batching count p) log b t →
      (p :: t.filterMap Exchange.offered?).Pairwise Progress.Advances ∧
      (∀ task ∈ b.tasks, task.stage = .ended .written →
        ∃ q, lastSaved? t = some q ∧ ∀ i ∈ task.group, q.items.isOnChain i) ∧
      ∀ q, lastSaved? t = some q → ∀ i, q.items.isOnChain i →
        p.items.isOnChain i ∨ ∃ tx ∈ t.filterMap Exchange.confirmed?, ∃ line, p.line? i = some line ∧
          Record.Writes tx site.record i line := by
  constructor
  · intro t r h
    obtain ⟨log, b, hcourse, -⟩ := makes_run hp h
    exact ⟨log, b, hcourse⟩
  · intro log b t h
    refine ⟨(h.chain hp).1, fun task ht hwritten => h.written hp ht hwritten, fun q hq i hi => ?_⟩
    exact h.isOnChain hp (mem_offered_of_lastSaved hq) hi

theorem saved_progress_sound_twoItems :
    ∃ log b q, Course ⟨.zero, .zero, default⟩ (.start ⟨1, 1, 1⟩ 2 twoItems) log b twoItemsUpload.1 ∧
      lastSaved? twoItemsUpload.1 = some q ∧ q.items.isOnChain 1 ∧
      ∃ tx ∈ twoItemsUpload.1.filterMap Exchange.confirmed?, ∃ line, twoItems.line? 1 = some line ∧
        Record.Writes tx .zero 1 line := by
  obtain ⟨hruns, hsound⟩ := @saved_progress_sound ⟨.zero, .zero, default⟩ ⟨1, 1, 1⟩ 2 twoItems covers_twoItems
  obtain ⟨log, b, hcourse⟩ := hruns _ _ makes_twoItemsUpload
  have hlast : (lastSaved? twoItemsUpload.1).any (·.items.isOnChain 1) = true := by decide +kernel
  obtain ⟨q, hq, hmarked⟩ := (Option.any_eq_true _ _).1 hlast
  have hunmarked : twoItems.items.isOnChain 1 = false := by decide +kernel
  refine ⟨log, b, q, hcourse, hq, hmarked, ((hsound log b _ hcourse).2.2 q hq 1 hmarked).resolve_left ?_⟩
  rw [hunmarked]
  exact Bool.false_ne_true

end Upload

end MintDrop
