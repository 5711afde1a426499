import MintDrop.Proofs.Upload.Steps

/-!
# The course of an upload

`Upload.Course` is an upload cut off at any moment: steps of its groups in some order, and the last save once
all groups have ended.  Every trace of `Upload.run` is one (`makes_run`), whichever groups get the turns; how
many slices are worked on at the same time only narrows the choice.
-/

namespace MintDrop.Upload

open Script

/-- What an upload has done when it is cut off: the log of its groups, their board, and all its calls. -/
inductive Course (site : Site) (start : Board) : Log → Board → List Exchange → Prop
  | working {log : Log} {b : Board} : Steps site start log b → Course site start log b (log.map (·.2))
  | closed {log : Log} {b : Board} (reply : Except StoreError Unit) : Steps site start log b → b.Ended →
      Course site start log b (log.map (·.2) ++ [⟨.save b.progress.slot b.progress, reply⟩])

theorem Course.steps {site : Site} {start b : Board} {log : Log} {t : List Exchange}
    (h : Course site start log b t) : Steps site start log b := by
  cases h with
  | working h => exact h
  | closed _ h _ => exact h

/-! ### Turns -/

section

variable {b : Board} {width k : ℕ}

theorem exists_of_mem_ready (h : k ∈ b.ready width) :
    ∃ t, b.tasks[k]? = some t ∧ t.stage.outcome? = none := by
  obtain ⟨⟨t, k'⟩, hmem, hk⟩ := List.mem_filterMap.1 h
  simp only [Option.ite_none_right_eq_some, Option.some.injEq, Bool.and_eq_true, Option.isNone_iff_eq_none]
    at hk
  obtain ⟨⟨hnone, -⟩, rfl⟩ := hk
  exact ⟨t, List.mk_mem_zipIdx_iff_getElem?.1 hmem, hnone⟩

/-- The first group that has not ended is in a slice that is worked on. -/
theorem ended_of_ready_eq_nil (h : b.ready width = []) : b.Ended := by
  intro t ht
  by_contra hsome
  have hpending : t ∈ b.tasks.filter (·.stage.outcome?.isNone) :=
    List.mem_filter.2 ⟨ht, by simpa using hsome⟩
  obtain ⟨first, rest, hfirst⟩ := List.exists_cons_of_ne_nil (List.ne_nil_of_mem hpending)
  have hmem : first ∈ b.tasks.filter (·.stage.outcome?.isNone) := by
    rw [hfirst]
    exact List.mem_cons_self
  obtain ⟨hfirst', hnone⟩ := List.mem_filter.1 hmem
  have hopen : first.slice ∈ b.openSlices width := by
    rw [Board.openSlices, hfirst, List.map_cons, List.eraseDups_cons]
    obtain ⟨n, hn⟩ : ∃ n, max 1 width = n + 1 := ⟨max 1 width - 1, by omega⟩
    rw [hn, List.take_succ_cons]
    exact List.mem_cons_self
  obtain ⟨k, hk⟩ := List.mem_iff_getElem?.1 hfirst'
  have hready : k ∈ b.ready width := by
    refine List.mem_filterMap.2 ⟨(first, k), List.mk_mem_zipIdx_iff_getElem?.2 hk, ?_⟩
    simp only [hnone, List.contains_iff_mem.2 hopen, Bool.and_self, if_true]
  rw [h] at hready
  cases hready

end

/-! ### Traces of an upload -/

section

variable {site : Site} {width : ℕ} {b b' b'' : Board} {log acts : Log} {t : List Exchange}

theorem Steps.head (hstep : Step site b acts b') (h : Steps site b' log b'') : Steps site b (acts ++ log) b'' := by
  induction h with
  | refl =>
      rw [List.append_nil]
      exact .tail .refl hstep
  | tail _ hlast ih =>
      rw [← List.append_assoc]
      exact .tail ih hlast

/-- The groups have ended, are cut off, or one of them takes a step before they go on. -/
theorem makes_work {r : Option Board} (h : Makes (work site width b) t r) :
    (t = [] ∧ (r = none ∨ (r = some b ∧ b.Ended))) ∨
      ∃ acts b' t', Step site b acts b' ∧ b'.left < b.left ∧ t = acts.map (·.2) ++ t' ∧
        Makes (work site width b') t' r := by
  rw [work] at h
  split at h
  · rename_i hready
    obtain ⟨rfl, rfl | rfl⟩ := makes_done h
    · exact Or.inl ⟨rfl, Or.inl rfl⟩
    · exact Or.inl ⟨rfl, Or.inr ⟨rfl, ended_of_ready_eq_nil hready⟩⟩
  · rename_i first others hready
    rcases makes_turn h with ⟨rfl, rfl⟩ | ⟨i, hnext⟩
    · exact Or.inl ⟨rfl, Or.inl rfl⟩
    · have hk : (first :: others).get i ∈ b.ready width := by
        rw [hready]
        exact List.get_mem _ _
      obtain ⟨task, htask, hpending⟩ := exists_of_mem_ready hk
      dsimp only at hnext
      split at hnext
      · rename_i hmissing
        rw [htask] at hmissing
        cases hmissing
      · rename_i task' htask'
        obtain rfl : task = task' := Option.some.inj (htask.symm.trans htask')
        split at hnext
        · rename_i hstage
          refine Or.inr ⟨[], _, t, .read htask hstage, Board.left_put_lt _ htask ?_, rfl, hnext⟩
          rw [hstage]
          exact left_begun_lt _
        · rename_i tx hstage
          rcases makes_call rfl hnext with ⟨rfl, rfl⟩ | ⟨reply, t', rfl, hrest⟩
          · exact Or.inl ⟨rfl, Or.inl rfl⟩
          · refine Or.inr ⟨_, _, t', .answer reply htask hstage, Board.left_put_lt _ htask ?_, rfl, hrest⟩
            rw [hstage]
            exact left_answered_lt _ _ _
        · rename_i signature hstage
          rcases makes_call rfl hnext with ⟨rfl, rfl⟩ | ⟨reply, t', rfl, hrest⟩
          · exact Or.inl ⟨rfl, Or.inl rfl⟩
          · refine Or.inr ⟨_, _, t', .save reply htask hstage, Board.left_put_lt _ htask ?_, rfl, hrest⟩
            rw [hstage]
            exact left_saved_lt _ _ _
        · rename_i outcome hstage
          rw [hstage] at hpending
          cases hpending

/-- What the groups do as they get their turns are steps in some order. -/
theorem steps_of_makes_work {r : Option Board} (h : Makes (work site width b) t r) :
    ∃ log b', Steps site b log b' ∧ t = log.map (·.2) ∧ ∀ final, r = some final → final = b' ∧ b'.Ended := by
  induction hn : b.left using Nat.strongRecOn generalizing b t with
  | ind n ih =>
      subst hn
      rcases makes_work h with ⟨rfl, rfl | ⟨rfl, hended⟩⟩ | ⟨acts, b', t', hstep, hlt, rfl, hrest⟩
      · exact ⟨[], b, .refl, rfl, fun _ hfinal => by cases hfinal⟩
      · exact ⟨[], b, .refl, rfl, fun _ hfinal => ⟨(Option.some.inj hfinal).symm, hended⟩⟩
      · obtain ⟨log, b'', hsteps, rfl, hfinal⟩ := ih _ hlt hrest rfl
        exact ⟨acts ++ log, b'', hsteps.head hstep, List.map_append.symm, hfinal⟩

end

/-! ### Missing items -/

theorem firstMissing?_eq_none_iff {items : Items} {index left : ℕ} :
    firstMissing? items index left = none ↔ ∀ n < left, items.contains (UInt32.ofNat (index + n)) := by
  induction left generalizing index with
  | zero => simp [firstMissing?]
  | succ left ih =>
      rw [firstMissing?]
      split_ifs with hfirst
      · rw [ih]
        constructor
        · rintro h (_ | n) hn
          · exact hfirst
          · have := h n (by omega)
            rwa [Nat.add_assoc, Nat.add_comm 1 n] at this
        · intro h n hn
          have := h (n + 1) (by omega)
          rwa [Nat.add_comm n 1, ← Nat.add_assoc] at this
      · refine ⟨fun h => (by cases h), fun h => absurd (h 0 (by omega)) ?_⟩
        simpa using hfirst

/-- Whether there is an item at every index below a count. -/
def Covers (p : Progress) (count : UInt32) : Prop := ∀ i < count, p.items.contains i

theorem covers_iff {p : Progress} {count : UInt32} :
    Covers p count ↔ firstMissing? p.items 0 count.toNat = none := by
  rw [firstMissing?_eq_none_iff]
  constructor
  · intro h n hn
    have hsize : count.toNat < UInt32.size := count.toNat_lt_size
    refine h _ (UInt32.lt_iff_toNat_lt.2 ?_)
    rw [UInt32.toNat_ofNat_of_lt' (by omega)]
    omega
  · intro h i hi
    have := h i.toNat (UInt32.lt_iff_toNat_lt.1 hi)
    rwa [Nat.zero_add, UInt32.ofNat_toNat] at this

/-! ### Whole uploads -/

/-- The result of an upload whose groups have ended, by the reply to the last save. -/
def resultOf (b : Board) : Except StoreError Unit → Except Error (Report × Progress)
  | .ok () => .ok (.ofOutcomes b.outcomes, b.progress)
  | .error e => .error (.store e)

variable {site : Site} {batching : Batching} {count : UInt32} {p : Progress} {t : List Exchange}
  {r : Option (Except Error (Report × Progress))}

theorem run_of_covers (hp : Covers p count) :
    run site batching count p = (do
      let b ← liftM (work site batching.maxConcurrentSlices (.start batching count p))
      Script.orElse (Script.save p.slot b.progress) .store
      pure (.ofOutcomes b.outcomes, b.progress)) := by
  unfold run
  rw [covers_iff.1 hp]

/-- An upload without an item makes no call. -/
theorem makes_run_of_not_covers (hp : ¬ Covers p count) (h : Makes (run site batching count p).run t r) :
    t = [] ∧ ∀ result, r = some result → ∃ i, result = .error (.missingItem i) := by
  rw [covers_iff] at hp
  obtain ⟨i, hi⟩ := Option.ne_none_iff_exists'.1 hp
  have hrun : (run site batching count p).run = .done (.error (.missingItem i)) := by
    unfold run
    rw [hi]
    rfl
  rw [hrun] at h
  obtain ⟨rfl, rfl | rfl⟩ := makes_done h
  · exact ⟨rfl, fun _ hresult => by cases hresult⟩
  · exact ⟨rfl, fun _ hresult => ⟨i, (Option.some.inj hresult).symm⟩⟩

/-- Every trace of an upload that has its items is a course of it, and its result is that of the last save. -/
theorem makes_run (hp : Covers p count) (h : Makes (run site batching count p).run t r) :
    ∃ log b, Course site (.start batching count p) log b t ∧
      ∀ result, r = some result → b.Ended ∧ ∃ reply, result = resultOf b reply ∧
        t = log.map (·.2) ++ [⟨.save b.progress.slot b.progress, reply⟩] := by
  rw [run_of_covers hp] at h
  rcases makes_andThen h with ⟨rfl, hwork⟩ | ⟨e, -, hwork⟩ | ⟨final, t₁, t₂, rfl, hwork, hrest⟩
  · rcases makes_lift hwork with ⟨-, hcut⟩ | ⟨_, hr, -⟩
    · obtain ⟨log, b, hsteps, rfl, -⟩ := steps_of_makes_work hcut
      exact ⟨log, b, .working hsteps, fun _ hresult => by cases hresult⟩
    · cases hr
  · rcases makes_lift hwork with ⟨hr, -⟩ | ⟨_, hr, -⟩ <;> cases hr
  · rcases makes_lift hwork with ⟨hr, -⟩ | ⟨_, hr, hdone⟩
    · cases hr
    cases hr
    obtain ⟨log, b, hsteps, rfl, hfinal⟩ := steps_of_makes_work hdone
    obtain ⟨rfl, hended⟩ := hfinal _ rfl
    rw [← (sound_of_steps hsteps).slot] at hrest
    rcases makes_andThen hrest with ⟨rfl, hsave⟩ | ⟨e, rfl, hsave⟩ | ⟨u, t₃, t₄, rfl, hsave, hpure⟩
    · rcases makes_save_none hsave with rfl | ⟨reply, rfl⟩
      · rw [List.append_nil]
        exact ⟨log, final, .working hsteps, fun _ hresult => by cases hresult⟩
      · exact ⟨log, final, .closed reply hsteps hended, fun _ hresult => by cases hresult⟩
    · obtain ⟨e', hresult, hcall⟩ := makes_orElse_some hsave
      obtain rfl := makes_ask_some (c := .save final.progress.slot final.progress) rfl hcall
      cases e' with
      | ok u => cases hresult
      | error e' =>
          cases hresult
          exact ⟨log, final, .closed _ hsteps hended,
            fun _ hresult => ⟨hended, .error e', (Option.some.inj hresult).symm, rfl⟩⟩
    · obtain rfl := makes_save_ok hsave
      obtain ⟨rfl, rfl | rfl⟩ := makes_done hpure
      · exact ⟨log, final, .closed _ hsteps hended, fun _ hresult => by cases hresult⟩
      · exact ⟨log, final, .closed _ hsteps hended,
          fun _ hresult => ⟨hended, .ok (), (Option.some.inj hresult).symm, rfl⟩⟩

/-- An upload that has its items fails with its last save only. -/
theorem store_of_error {e : Error} (hp : Covers p count)
    (h : Makes (run site batching count p).run t (some (.error e))) : ∃ e', e = .store e' := by
  obtain ⟨log, b, -, hfinal⟩ := makes_run hp h
  obtain ⟨-, reply, hresult, -⟩ := hfinal _ rfl
  cases reply with
  | ok u => cases hresult
  | error e' => exact ⟨e', Except.error.inj hresult⟩

/-! ### Uploads of two items -/

/-- Two items, of which the first one is marked. -/
def twoItems : Progress :=
  { Progress.blank with items := .ofList [(0, ⟨"a", "b", true, false⟩), (1, .fresh "c" "d")] }

theorem covers_twoItems : Covers twoItems 2 := covers_iff.2 (by decide +kernel)

/-- What an upload of the two items one by one does, and its result, if nothing fails. -/
def twoItemsUpload : List Exchange × Except Error (Report × Progress) :=
  (run ⟨.zero, .zero, default⟩ ⟨1, 1, 1⟩ 2 twoItems).run.transcript Kept.serve .empty

theorem makes_twoItemsUpload :
    Makes (run ⟨.zero, .zero, default⟩ ⟨1, 1, 1⟩ 2 twoItems).run twoItemsUpload.1 (some twoItemsUpload.2) :=
  makes_transcript _ _ _

/-- Two items, none of which is marked. -/
def twoFreshItems : Progress :=
  { Progress.blank with items := .ofList [(0, .fresh "a" "b"), (1, .fresh "c" "d")] }

theorem covers_twoFreshItems : Covers twoFreshItems 2 := covers_iff.2 (by decide +kernel)

/-- The answers of a ledger and of a store to which each submission and each save is the next verdict; the first
or the last of the groups that can go on has the turn. -/
def judge (last : Bool) (c : Call) : StateM (List Bool) c.Reply := fun verdicts =>
  match c with
  | .account _ => (.ok none, verdicts)
  | .rent _ => (.ok 0, verdicts)
  | .owned _ _ => (.ok [], verdicts)
  | .load _ => (.ok none, verdicts)
  | .submit _ => (if verdicts.headD true then .ok [] else .error (.transaction "refused"), verdicts.tail)
  | .save _ _ => (if verdicts.headD true then .ok () else .error (.io "" .notFound), verdicts.tail)
  | .turn others => (if last then Fin.last others else ⟨0, others.succ_pos⟩, verdicts)

end MintDrop.Upload
