import Mathlib.Data.List.Nodup
import MintDrop.Proofs.Kept
import MintDrop.Proofs.Upload.Group

/-!
# Interleaved steps of an upload

`Upload.Steps` lets the groups of a board take their steps one at a time in any order, under any replies, and
logs the calls of each group.  `Upload.Trail` lists the calls that a group in a stage has made, and
`Upload.Sound` is the invariant of the steps (`sound_of_steps`): every group has the trail of its stage, and the
shared progress is the one at the start with the groups marked that were written.
-/

namespace MintDrop.Upload

/-- The calls of groups with their replies, in the order in which they were made. -/
abbrev Log := List (Span × Exchange)

/-- The calls of one group. -/
def Log.calls (log : Log) (g : Span) : List Exchange := (log.filter (·.1 = g)).map (·.2)

/-! ### Steps -/

/-- One step of one group, whichever it is: it reads its items, is answered by the ledger, or marks itself and
saves the progress. -/
inductive Step (site : Site) (b : Board) : Log → Board → Prop
  | read {k : ℕ} {t : Task} : b.tasks[k]? = some t → t.stage = .waiting →
      Step site b [] (b.put k (begun (begin site b.progress t.group)) b.progress)
  | answer {k : ℕ} {t : Task} {tx : Transaction} (reply : Except LedgerError Signature) :
      b.tasks[k]? = some t → t.stage = .ready tx →
      Step site b [(t.group, ⟨.submit tx, reply⟩)] (b.put k (answered t.group reply) b.progress)
  | save {k : ℕ} {t : Task} {signature : Signature} (reply : Except StoreError Unit) :
      b.tasks[k]? = some t → t.stage = .confirmed signature →
      Step site b [(t.group, ⟨.save b.progress.slot (mark b.progress t.group), reply⟩)]
        (b.put k (saved t.group signature reply) (mark b.progress t.group))

/-- Steps of the groups in some order. -/
inductive Steps (site : Site) (b : Board) : Log → Board → Prop
  | refl : Steps site b [] b
  | tail {log acts : Log} {b' b'' : Board} :
      Steps site b log b' → Step site b' acts b'' → Steps site b (log ++ acts) b''

/-- Whether all groups have ended. -/
def Board.Ended (b : Board) : Prop := ∀ t ∈ b.tasks, t.stage.outcome?.isSome

/-- Whether a group in a stage is marked. -/
def Stage.isMarked : Stage → Bool
  | .ended .written => true
  | .ended (.failed ⟨_, .unsaved ..⟩) => true
  | _ => false

/-- Whether an index lies in a group that is marked. -/
def Board.Marked (b : Board) (i : UInt32) : Prop := ∃ t ∈ b.tasks, t.stage.isMarked ∧ i ∈ t.group

instance (b : Board) (i : UInt32) : Decidable (b.Marked i) :=
  inferInstanceAs (Decidable (∃ t ∈ b.tasks, t.stage.isMarked ∧ i ∈ t.group))

/-! ### The invariant -/

/-- The calls that a group in a stage has made, if `p` is the progress at the start. -/
inductive Trail (site : Site) (p : Progress) (g : Span) : Stage → List Exchange → Prop
  | waiting : Trail site p g .waiting []
  | ended {outcome : Outcome} : begin site p g = .error outcome → Trail site p g (.ended outcome) []
  | ready {tx : Transaction} : begin site p g = .ok tx → Trail site p g (.ready tx) []
  | refused {tx : Transaction} {e : LedgerError} : begin site p g = .ok tx →
      Trail site p g (.ended (.failed ⟨g, .ledger e⟩)) [⟨.submit tx, .error e⟩]
  | confirmed {tx : Transaction} {signature : Signature} : begin site p g = .ok tx →
      Trail site p g (.confirmed signature) [⟨.submit tx, .ok signature⟩]
  | unsaved {tx : Transaction} {signature : Signature} {slot : Slot} {q : Progress} {e : StoreError} :
      begin site p g = .ok tx →
      Trail site p g (.ended (.failed ⟨g, .unsaved signature e⟩))
        [⟨.submit tx, .ok signature⟩, ⟨.save slot q, .error e⟩]
  | written {tx : Transaction} {signature : Signature} {slot : Slot} {q : Progress} :
      begin site p g = .ok tx →
      Trail site p g (.ended .written) [⟨.submit tx, .ok signature⟩, ⟨.save slot q, .ok ()⟩]

/-- What holds after any steps that began with the progress `p` and the groups `groups`. -/
structure Sound (site : Site) (p : Progress) (groups : List Span) (log : Log) (b : Board) : Prop where
  groups : b.tasks.map (·.group) = groups
  trail : ∀ t ∈ b.tasks, Trail site p t.group t.stage (log.calls t.group)
  get? : ∀ i, b.progress.items.get? i =
    (p.items.get? i).map fun item => if b.Marked i then item.written else item
  program : b.progress.program = p.program
  slot : b.progress.slot = p.slot

/-! ### Marks -/

section

variable {site : Site} {p : Progress} {groups : List Span} {log : Log} {b : Board} {g : Span} {stage : Stage}
  {calls : List Exchange}

/-- A group is marked only after the ledger confirmed its submission. -/
theorem Trail.confirmed_of_isMarked (h : Trail site p g stage calls) (hmarked : stage.isMarked) :
    ∃ tx signature, begin site p g = .ok tx ∧ ⟨.submit tx, .ok signature⟩ ∈ calls := by
  cases h with
  | waiting => cases hmarked
  | ready => cases hmarked
  | confirmed => cases hmarked
  | refused => cases hmarked
  | ended hbegin =>
      rcases begin_eq_error hbegin with ⟨rfl, -⟩ | ⟨rfl, -⟩ | ⟨_, _, rfl, -⟩ <;> cases hmarked
  | unsaved hbegin => exact ⟨_, _, hbegin, List.mem_cons_self⟩
  | written hbegin => exact ⟨_, _, hbegin, List.mem_cons_self⟩

/-- A group submits the transaction that its items at the start lead to. -/
theorem Trail.begin_of_submitted {e : Exchange} {tx : Transaction} (h : Trail site p g stage calls)
    (he : e ∈ calls) (htx : e.submitted? = some tx) : begin site p g = .ok tx := by
  cases h with
  | waiting => cases he
  | ended => cases he
  | ready => cases he
  | refused hbegin | confirmed hbegin =>
      obtain rfl := List.mem_singleton.1 he
      obtain rfl := Option.some.inj htx
      exact hbegin
  | unsaved hbegin | written hbegin =>
      rcases List.mem_pair.1 he with rfl | rfl
      · obtain rfl := Option.some.inj htx
        exact hbegin
      · cases htx

theorem Sound.isOnChain_iff (h : Sound site p groups log b) {i : UInt32} :
    b.progress.items.isOnChain i ↔ p.items.isOnChain i ∨ (b.Marked i ∧ p.items.contains i) := by
  rw [Items.isOnChain, Items.isOnChain, Items.contains, h.get? i]
  cases p.items.get? i with
  | none => simp
  | some item => by_cases hm : b.Marked i <;> simp [hm, Item.written]

theorem Sound.line?_eq (h : Sound site p groups log b) (i : UInt32) : b.progress.line? i = p.line? i := by
  rw [Progress.line?, Progress.line?, h.get? i, Option.map_map]
  refine congrFun (congrArg Option.map (funext fun item => ?_)) _
  change line (if b.Marked i then item.written else item) = line item
  split_ifs <;> rfl

end

/-! ### Boards -/

theorem map_group_start (batching : Batching) (count : UInt32) (p : Progress) :
    (Board.start batching count p).tasks.map (·.group) = batching.groups count := by
  rw [Board.start, List.map_flatMap, Batching.groups]
  refine congrArg (fun f => List.flatMap f _) (funext fun slice => ?_)
  rw [List.map_map]
  exact List.map_id _

theorem stage_start {batching : Batching} {count : UInt32} {p : Progress} {t : Task}
    (ht : t ∈ (Board.start batching count p).tasks) : t.stage = .waiting := by
  obtain ⟨slice, _, ht⟩ := List.mem_flatMap.1 ht
  obtain ⟨g, _, rfl⟩ := List.mem_map.1 ht
  rfl

section

variable {b : Board} {k : ℕ} {t : Task} {stage : Stage} {q : Progress}

theorem map_group_put : (b.put k stage q).tasks.map (·.group) = b.tasks.map (·.group) := by
  refine List.ext_getElem? fun n => ?_
  rw [Board.put, List.getElem?_map, List.getElem?_map, List.getElem?_modify]
  cases b.tasks[n]? with
  | none => rfl
  | some x =>
      change some (if k = n then ({ x with stage } : Task) else x).group = some x.group
      split_ifs <;> rfl

/-- Groups differ, so that a group has one place on the board. -/
theorem eq_of_group_eq {t' : Task} (hnodup : (b.tasks.map (·.group)).Nodup) (ht : t ∈ b.tasks)
    (ht' : t' ∈ b.tasks) (h : t.group = t'.group) : t = t' :=
  List.inj_on_of_nodup_map hnodup ht ht' h

theorem mem_put (hnodup : (b.tasks.map (·.group)).Nodup) (ht : b.tasks[k]? = some t) {t' : Task} :
    t' ∈ (b.put k stage q).tasks ↔
      t' = { t with stage } ∨ (t' ∈ b.tasks ∧ t'.group ≠ t.group) := by
  have hget : ∀ n, (b.put k stage q).tasks[n]? =
      if k = n then some { t with stage } else b.tasks[n]? := by
    intro n
    rw [Board.put, List.getElem?_modify]
    split_ifs with hkn
    · rw [← hkn, ht]
      rfl
    · exact Option.map_id' ..
  simp only [List.mem_iff_getElem?, hget]
  constructor
  · rintro ⟨n, hn⟩
    split_ifs at hn with hkn
    · exact Or.inl (Option.some.inj hn).symm
    · refine Or.inr ⟨⟨n, hn⟩, fun hgroup => hkn ?_⟩
      have hlt : k < (b.tasks.map (·.group)).length := by
        rw [List.length_map]
        exact (List.getElem?_eq_some_iff.1 ht).1
      refine (List.getElem?_inj hlt hnodup).1 ?_
      rw [List.getElem?_map, List.getElem?_map, ht, hn, Option.map_some, Option.map_some, hgroup]
  · rintro (rfl | ⟨⟨n, hn⟩, hgroup⟩)
    · exact ⟨k, if_pos rfl⟩
    · refine ⟨n, ?_⟩
      rw [if_neg, hn]
      rintro rfl
      exact hgroup (congrArg Task.group (Option.some.inj (hn.symm.trans ht)))

/-- A step of a group that is not marked yet may mark it, and leaves the marks of all others. -/
theorem marked_put (hnodup : (b.tasks.map (·.group)).Nodup) (ht : b.tasks[k]? = some t)
    (hmarked : t.stage.isMarked = false) {i : UInt32} :
    (b.put k stage q).Marked i ↔ (stage.isMarked ∧ i ∈ t.group) ∨ b.Marked i := by
  constructor
  · rintro ⟨t', ht', hm⟩
    rcases (mem_put hnodup ht).1 ht' with rfl | ⟨ht', -⟩
    · exact Or.inl hm
    · exact Or.inr ⟨t', ht', hm⟩
  · rintro (hm | ⟨t', ht', hm, hi⟩)
    · exact ⟨_, (mem_put hnodup ht).2 (Or.inl rfl), hm⟩
    · refine ⟨t', (mem_put hnodup ht).2 (Or.inr ⟨ht', fun hgroup => ?_⟩), hm, hi⟩
      obtain rfl := eq_of_group_eq hnodup ht' (List.mem_of_getElem? ht) hgroup
      rw [hmarked] at hm
      cases hm

end

/-! ### Logs -/

theorem calls_append (log acts : Log) (g : Span) : (log ++ acts).calls g = log.calls g ++ acts.calls g := by
  rw [Log.calls, List.filter_append, List.map_append]
  rfl

theorem calls_single_self (g : Span) (e : Exchange) : Log.calls [(g, e)] g = [e] := by
  simp [Log.calls]

theorem calls_single_of_ne {g g' : Span} (h : g ≠ g') (e : Exchange) : Log.calls [(g, e)] g' = [] := by
  simp [Log.calls, h]

theorem mem_calls {log : Log} {g : Span} {e : Exchange} : e ∈ log.calls g ↔ (g, e) ∈ log := by
  simp only [Log.calls, List.mem_map, List.mem_filter, decide_eq_true_eq]
  constructor
  · rintro ⟨⟨g', e'⟩, ⟨hmem, rfl⟩, rfl⟩
    exact hmem
  · exact fun h => ⟨(g, e), ⟨h, rfl⟩, rfl⟩

/-! ### Preservation -/

theorem isMarked_begun (site : Site) (p : Progress) (g : Span) : (begun (begin site p g)).isMarked = false := by
  cases h : begin site p g with
  | ok tx => rfl
  | error outcome =>
      obtain ⟨rfl, -⟩ | ⟨rfl, -⟩ | ⟨_, _, rfl, -⟩ := begin_eq_error h <;> rfl

theorem isMarked_answered (g : Span) (reply : Except LedgerError Signature) :
    (answered g reply).isMarked = false := by
  cases reply <;> rfl

theorem isMarked_saved (g : Span) (signature : Signature) (reply : Except StoreError Unit) :
    (saved g signature reply).isMarked = true := by
  cases reply <;> rfl

section

variable {site : Site} {p : Progress} {groups : List Span} {count : UInt32} {log acts : Log} {b b' : Board}
  {k : ℕ} {t : Task}

theorem Sound.nodup (h : Sound site p groups log b) (htiles : Tiles 0 groups count) :
    (b.tasks.map (·.group)).Nodup := by
  rw [h.groups]
  exact htiles.nodup

theorem Sound.group_mem (h : Sound site p groups log b) (ht : t ∈ b.tasks) : t.group ∈ groups := by
  rw [← h.groups]
  exact List.mem_map_of_mem ht

theorem Sound.exists_task (h : Sound site p groups log b) {g : Span} (hg : g ∈ groups) :
    ∃ t ∈ b.tasks, t.group = g := by
  rw [← h.groups] at hg
  exact List.mem_map.1 hg

theorem Sound.get?_of_not_marked (h : Sound site p groups log b) {i : UInt32} (hi : ¬ b.Marked i) :
    b.progress.items.get? i = p.items.get? i := by
  rw [h.get? i]
  simp only [hi, if_false, Option.map_id']

/-- A group that is not marked reads its items as they were at the start. -/
theorem Sound.begin_eq (h : Sound site p groups log b) (htiles : Tiles 0 groups count) (ht : t ∈ b.tasks)
    (hmarked : t.stage.isMarked = false) : begin site b.progress t.group = begin site p t.group := by
  refine begin_congr fun i hi => h.get?_of_not_marked ?_
  rintro ⟨t', ht', hmarked', hi'⟩
  have hgroup : t.group = t'.group := htiles.eq_of_mem (h.group_mem ht) (h.group_mem ht') hi hi'
  obtain rfl := eq_of_group_eq (h.nodup htiles) ht ht' hgroup
  rw [hmarked] at hmarked'
  cases hmarked'

/-- A step of one group keeps the invariant if the group keeps its trail and the progress its marks. -/
theorem Sound.put (h : Sound site p groups log b) (htiles : Tiles 0 groups count) (ht : b.tasks[k]? = some t)
    {stage : Stage} {q : Progress} (hacts : ∀ g, g ≠ t.group → acts.calls g = [])
    (htrail : Trail site p t.group stage (log.calls t.group ++ acts.calls t.group))
    (hprogress : (q = b.progress ∧ stage.isMarked = false) ∨ (q = mark b.progress t.group ∧ stage.isMarked))
    (hmarked : t.stage.isMarked = false) : Sound site p groups (log ++ acts) (b.put k stage q) := by
  have hnodup := h.nodup htiles
  have hgroup := htiles.start_lt_stop (h.group_mem (List.mem_of_getElem? ht))
  refine ⟨map_group_put.trans h.groups, fun t' ht' => ?_, fun i => ?_, ?_, ?_⟩
  · rw [calls_append]
    rcases (mem_put hnodup ht).1 ht' with rfl | ⟨ht', hne⟩
    · exact htrail
    · rw [hacts _ hne, List.append_nil]
      exact h.trail t' ht'
  · change q.items.get? i = _
    simp only [marked_put hnodup ht hmarked]
    rcases hprogress with ⟨rfl, hstage⟩ | ⟨rfl, hstage⟩
    · simp only [hstage, Bool.false_eq_true, false_and, false_or, h.get? i]
    · rw [get?_mark hgroup, h.get? i, Option.map_map]
      refine congrFun (congrArg Option.map (funext fun item => ?_)) _
      by_cases hi : i ∈ t.group <;> by_cases hm : b.Marked i <;> simp [hi, hm, hstage, Item.written]
  · rcases hprogress with ⟨rfl, -⟩ | ⟨rfl, -⟩ <;> exact h.program
  · rcases hprogress with ⟨rfl, -⟩ | ⟨rfl, -⟩ <;> exact h.slot

theorem Sound.step (h : Sound site p groups log b) (htiles : Tiles 0 groups count) (hstep : Step site b acts b') :
    Sound site p groups (log ++ acts) b' := by
  cases hstep with
  | @read k t ht hstage =>
      have htasks : t ∈ b.tasks := List.mem_of_getElem? ht
      have hmarked : t.stage.isMarked = false := by rw [hstage]; rfl
      have htrail := h.trail t htasks
      rw [h.begin_eq htiles htasks hmarked]
      refine h.put htiles ht (fun _ _ => rfl) ?_ (Or.inl ⟨rfl, isMarked_begun _ _ _⟩) hmarked
      rw [hstage] at htrail
      cases hcalls : log.calls t.group with
      | cons _ _ => rw [hcalls] at htrail; cases htrail
      | nil =>
          cases hbegin : begin site p t.group with
          | error outcome => exact .ended hbegin
          | ok tx => exact .ready hbegin
  | @answer k t tx reply ht hstage =>
      have htasks : t ∈ b.tasks := List.mem_of_getElem? ht
      have hmarked : t.stage.isMarked = false := by rw [hstage]; rfl
      have htrail := h.trail t htasks
      refine h.put htiles ht (fun g hg => calls_single_of_ne hg.symm _) ?_
        (Or.inl ⟨rfl, isMarked_answered _ _⟩) hmarked
      rw [calls_single_self]
      rw [hstage] at htrail
      generalize log.calls t.group = calls at htrail ⊢
      cases htrail with
      | ready hbegin =>
          cases reply with
          | error e => exact .refused hbegin
          | ok signature => exact .confirmed hbegin
  | @save k t signature reply ht hstage =>
      have htasks : t ∈ b.tasks := List.mem_of_getElem? ht
      have hmarked : t.stage.isMarked = false := by rw [hstage]; rfl
      have htrail := h.trail t htasks
      refine h.put htiles ht (fun g hg => calls_single_of_ne hg.symm _) ?_
        (Or.inr ⟨rfl, isMarked_saved _ _ _⟩) hmarked
      rw [calls_single_self]
      rw [hstage] at htrail
      generalize log.calls t.group = calls at htrail ⊢
      cases htrail with
      | confirmed hbegin =>
          cases reply with
          | error e => exact .unsaved hbegin
          | ok u => exact .written hbegin

/-- Only groups of the board make calls. -/
theorem Sound.mem_log (h : Sound site p groups log b) (hlog : ∀ e ∈ log, e.1 ∈ groups)
    (hstep : Step site b acts b') : ∀ e ∈ log ++ acts, e.1 ∈ groups := by
  intro e he
  rcases List.mem_append.1 he with he | he
  · exact hlog e he
  · cases hstep with
    | read => cases he
    | answer reply ht =>
        obtain rfl := List.mem_singleton.1 he
        exact h.group_mem (List.mem_of_getElem? ht)
    | save reply ht =>
        obtain rfl := List.mem_singleton.1 he
        exact h.group_mem (List.mem_of_getElem? ht)

theorem sound_start (site : Site) (batching : Batching) (count : UInt32) (p : Progress) :
    Sound site p (batching.groups count) [] (Board.start batching count p) := by
  refine ⟨map_group_start batching count p, fun t ht => ?_, fun i => ?_, rfl, rfl⟩
  · rw [stage_start ht]
    exact .waiting
  · have hnot : ¬ (Board.start batching count p).Marked i := by
      rintro ⟨t, ht, hmarked, -⟩
      rw [stage_start ht] at hmarked
      cases hmarked
    simp only [hnot, if_false, Option.map_id']
    rfl

/-- The invariant holds after any steps in any order. -/
theorem sound_of_steps {batching : Batching} {count : UInt32}
    (h : Steps site (Board.start batching count p) log b) : Sound site p (batching.groups count) log b := by
  induction h with
  | refl => exact sound_start site batching count p
  | tail _ hstep ih => exact ih.step (tiles_groups batching count) hstep

theorem group_mem_of_mem_log {batching : Batching} {count : UInt32}
    (h : Steps site (Board.start batching count p) log b) : ∀ e ∈ log, e.1 ∈ batching.groups count := by
  induction h with
  | refl => exact fun _ he => by cases he
  | tail hsteps hstep ih => exact (sound_of_steps hsteps).mem_log ih hstep

theorem savesTo_of_steps {batching : Batching} {count : UInt32}
    (h : Steps site (Board.start batching count p) log b) : SavesTo p.slot (log.map (·.2)) := by
  induction h with
  | refl => exact savesTo_nil
  | tail hsteps hstep ih =>
      rw [List.map_append, savesTo_append]
      refine ⟨ih, ?_⟩
      cases hstep with
      | read => exact savesTo_nil
      | answer => exact savesTo_cons.2 ⟨fun _ _ hcall => (by cases hcall), savesTo_nil⟩
      | save =>
          refine savesTo_cons.2 ⟨fun slot' q h => ?_, savesTo_nil⟩
          cases h
          exact (sound_of_steps hsteps).slot

/-- A group submits no other transaction than that of its items as they were at the start. -/
theorem begin_of_mem_log {batching : Batching} {count : UInt32} {g : Span} {e : Exchange} {tx : Transaction}
    (h : Steps site (Board.start batching count p) log b) (he : (g, e) ∈ log) (htx : e.submitted? = some tx) :
    g ∈ batching.groups count ∧ begin site p g = .ok tx := by
  have hg : g ∈ batching.groups count := group_mem_of_mem_log h _ he
  obtain ⟨t, ht, rfl⟩ := (sound_of_steps h).exists_task hg
  exact ⟨hg, ((sound_of_steps h).trail t ht).begin_of_submitted (mem_calls.2 he) htx⟩

/-- A transaction that is submitted is that of a group with its items as they were at the start. -/
theorem begin_of_submitted {batching : Batching} {count : UInt32} {e : Exchange} {tx : Transaction}
    (h : Steps site (Board.start batching count p) log b) (he : e ∈ log.map (·.2))
    (htx : e.submitted? = some tx) : ∃ g ∈ batching.groups count, begin site p g = .ok tx := by
  obtain ⟨⟨g, e⟩, hmem, rfl⟩ := List.mem_map.1 he
  exact ⟨g, begin_of_mem_log h hmem htx⟩

end

end MintDrop.Upload
