import MintDrop.Proofs.Deployment.Identity
import MintDrop.Proofs.Upload.Resume

/-!
# Runs that are repeated

A run that succeeds leaves progress with the identity of its record and, if it uploads items, with all of them
marked (`complete_of_course`).  Another run of the same drop then finds nothing to do: it submits nothing, and what
is kept stays as it is (`Complete.repeat_of_course`), whatever its batching and whatever the ledger replies.
-/

namespace MintDrop.Deployment

open Script

/-- Whether kept progress is that of a drop that is deployed: it has the identity of the record, and marks on all
items that are uploaded. -/
structure Complete (d : Deployment) (slot : Slot) (id : Identity) (k : Progress) : Prop where
  identity : k.identity = .ok (some id)
  size : d.itemCount.toNat < UInt32.size
  slot : d.uploadsItems → k.slot = slot
  marked : d.uploadsItems → ∀ i < d.itemCount.toUInt32, k.items.isOnChain i

section

variable {d : Deployment} {site : Site} {key : Keypair} {loaded : Option Progress} {p k : Progress}
  {id : Identity} {created : Bool} {count : UInt32} {t : List Exchange} {kept : Kept}

/-! ### What a run that succeeds leaves -/

theorem complete_of_course {report : Report} (h : Course d site key t (some (.ok report)))
    (hhonest : kept.Honest t) (hsuccess : report.success) :
    report.upload.isSome = d.uploadsItems ∧
      ∃ k, kept.after t site.slot = some k ∧ Complete d site.slot report.identity k := by
  obtain ⟨k, hk, hid⟩ := identity_of_course h hhonest
  obtain ⟨loaded, p, p', id, created, t₁, t₂, rfl, hsize, hready, hensured, huploading⟩ := h.cases_ok
  obtain ⟨-, -, hsome, hmakes⟩ := huploading.cases_ok
  refine ⟨hsome, k, hk, ?_⟩
  suffices hupload : d.uploadsItems → k.slot = site.slot ∧ ∀ i < d.itemCount.toUInt32, k.items.isOnChain i from
    { identity := hid, size := hsize, slot := fun hd => (hupload hd).1, marked := fun hd => (hupload hd).2 }
  intro hd
  obtain ⟨result, q, hresult, hmakes⟩ := hmakes hd
  obtain ⟨-, hslot, -⟩ := kept_of_ensured hready hhonest.1 hensured
  have hcovers := covers_of_ensured (hready.covers hd) hensured
  obtain ⟨log, b, hsteps, hended, rfl, rfl, -, hafter⟩ := Upload.exists_steps_of_makes_ok hcovers hmakes
  -- The upload has saved its progress last.
  have hlast : kept.after (⟨.load site.slot, .ok loaded⟩ :: (t₁ ++ t₂)) site.slot = some b.progress := by
    rw [Kept.after_cons, Kept.after_append, hafter, hslot, Function.update_self]
  obtain rfl : b.progress = k := Option.some.inj (hlast.symm.trans hk)
  have hsound := Upload.sound_of_steps hsteps
  refine ⟨hsound.slot.trans hslot, fun i hi => hsound.isOnChain_of_unrefused hcovers hended ?_ hi⟩
  rw [Report.success, hresult, Option.all_some, Upload.Report.success, List.isEmpty_iff] at hsuccess
  rw [hsuccess]
  exact fun _ hf => absurd hf List.not_mem_nil

/-! ### What the next run does -/

theorem isPartial_of_identity (h : p.identity = .ok (some id)) : p.isPartial = false := by
  obtain ⟨htag, haddress⟩ := settled_of_identity h
  rw [Progress.isPartial, htag, haddress]
  rfl

/-- Where nothing is missing, the check of the progress changes nothing. -/
theorem Complete.readyProgress_eq (h : Complete d site.slot id k) :
    readyProgress d site d.itemCount.toUInt32 (starting site (some k)) = .ok (k.stamp site.slot) := by
  have hpartial : (k.stamp site.slot).isPartial = false := isPartial_of_identity h.identity
  change readyProgress d site d.itemCount.toUInt32 (k.stamp site.slot) = _
  rw [readyProgress, hpartial, if_neg Bool.false_ne_true]
  split_ifs with hd
  · have hfill : fillItems d 0 d.itemCount.toUInt32.toNat k.items = .ok k.items := by
      refine fillItems_of_contains fun n hn => ?_
      have hsize := d.itemCount.toUInt32.toNat_lt_size
      have hlt : UInt32.ofNat (0 + n) < d.itemCount.toUInt32 := by
        rw [UInt32.lt_iff_toNat_lt, UInt32.toNat_ofNat_of_lt' (by omega)]
        omega
      exact Items.contains_of_isOnChain (h.marked hd _ hlt)
    change (fillItems d 0 d.itemCount.toUInt32.toNat k.items).map _ = _
    rw [hfill]
    rfl
  · rfl

/-- With an identity, a run comes to its upload without a call. -/
theorem Ensured.eq_kept {x : Except Error (Identity × Bool × Progress)} (hid : p.identity = .ok (some id))
    (h : Ensured d site count key p t (some x)) : t = [] ∧ x = .ok (id, false, p) := by
  have hnone : p.identity ≠ .ok none := fun hnone => by
    rw [hid] at hnone
    cases hnone
  cases h with
  | halted hfailed hcorrupt =>
      obtain ⟨e, rfl⟩ := hfailed.exists_error
      obtain ⟨e', he', -⟩ := hcorrupt e rfl
      rw [hid] at he'
      cases he'
  | kept hid' =>
      rw [hid] at hid'
      cases hid'
      exact ⟨rfl, rfl⟩
  | uncreated hid' | unsaved hid' | created hid' => exact absurd hid' hnone

theorem Complete.repeat_of_uploading {r : Except Error Report} (hk : Complete d site.slot id k)
    (h : Uploading d site id created (k.stamp site.slot) t (some r)) (hserved : ∀ e ∈ t, e.storeFails = false) :
    (∃ report, r = .ok report ∧ report.success ∧ report.created = created ∧ report.identity = id) ∧
      (t = [] ∨ t = [⟨.save site.slot k, .ok ()⟩] ∧ k.slot = site.slot) := by
  cases h with
  | skipped _ hr =>
      rcases hr with hr | hr <;> cases hr
      exact ⟨⟨_, rfl, rfl, rfl, rfl⟩, Or.inl rfl⟩
  | @uploaded _ _ r' hd hmakes hr =>
      have hstamp : k.stamp site.slot = k := by
        rw [← hk.slot hd, Progress.stamp_slot]
      rw [hstamp] at hmakes
      rcases r' with - | r'
      · rcases hr with hr | hr <;> cases hr
      · obtain ⟨report, hsuccess, ⟨rfl, rfl⟩ | ⟨e, rfl⟩⟩ := Upload.makes_run_of_marked (hk.marked hd) hmakes
        · rcases hr with hr | hr <;> cases hr
          exact ⟨⟨_, rfl, hsuccess, rfl, rfl⟩, Or.inr ⟨by rw [hk.slot hd], hk.slot hd⟩⟩
        · cases hserved _ List.mem_cons_self

theorem Complete.repeat_of_course {r : Except Error Report} (hcomplete : Complete d site.slot id k)
    (hk : kept site.slot = some k) (h : Course d site key t (some r)) (hhonest : kept.Honest t)
    (hserved : ∀ e ∈ t, e.storeFails = false) :
    (∃ report, r = .ok report ∧ report.success ∧ report.created = false ∧ report.identity = id) ∧
      (∀ e ∈ t, e.submitted? = none) ∧ kept.after t = kept := by
  have hready : ∀ {loaded}, loaded = kept site.slot →
      readyProgress d site d.itemCount.toUInt32 (starting site loaded) = .ok (k.stamp site.slot) := by
    rintro loaded rfl
    rw [hk]
    exact hcomplete.readyProgress_eq
  have hid : (k.stamp site.slot).identity = .ok (some id) := hcomplete.identity
  cases h with
  | unstarted hfailed hmany =>
      obtain ⟨e, rfl⟩ := hfailed.exists_error
      exact absurd (hmany e rfl).2 (Nat.not_le_of_lt hcomplete.size)
  | unloaded => cases hserved _ List.mem_cons_self
  | unready hfailed herror =>
      obtain ⟨e, rfl⟩ := hfailed.exists_error
      cases (hready hhonest.1).symm.trans (herror e rfl)
  | @unensured loaded p t r' _ hreadied hensured _ hfailed hcut =>
      obtain rfl := Except.ok.inj (hreadied.ready.symm.trans (hready hhonest.1))
      cases r' with
      | none => cases hcut rfl
      | some x =>
          obtain ⟨-, rfl⟩ := hensured.eq_kept hid
          exact absurd rfl (hfailed _)
  | @uploading loaded p p' id' created t u _ hreadied hensured huploading =>
      obtain rfl := Except.ok.inj (hreadied.ready.symm.trans (hready hhonest.1))
      obtain ⟨rfl, hx⟩ := hensured.eq_kept hid
      cases hx
      obtain ⟨hreport, hcalls⟩ := hcomplete.repeat_of_uploading huploading fun e he =>
        hserved e (List.mem_cons_of_mem _ he)
      refine ⟨hreport, ?_⟩
      rcases hcalls with rfl | ⟨rfl, hslot⟩
      · exact ⟨List.forall_mem_singleton.2 rfl, rfl⟩
      · refine ⟨List.forall_mem_cons.2 ⟨rfl, List.forall_mem_singleton.2 rfl⟩, ?_⟩
        have hsame : k.stamp site.slot = k := by
          rw [← hslot, Progress.stamp_slot]
        change Function.update kept site.slot (some (k.stamp site.slot)) = kept
        rw [hsame, ← hk, Function.update_eq_self]

end

/-- A run that succeeds has kept the record that it reports and, if it has uploaded the items, all of their marks.
Another run of the same drop under the same name, in other batchings and over any ledger, ends and succeeds, unless
the store fails: it reports the same record and creates none, submits nothing and leaves what is kept as it is. -/
theorem success_idempotent {d : Deployment} {site : Site} {key : Keypair} {report : Report} {t : List Exchange}
    {kept : Kept} (h : Makes (run d site key).run t (some (.ok report))) (hhonest : kept.Honest t)
    (hsuccess : report.success) :
    (∃ k, kept.after t site.slot = some k ∧ k.identity = .ok (some report.identity) ∧
      (report.upload.isSome → ∀ i : UInt32, i.toNat < d.itemCount.toNat → k.items.isOnChain i)) ∧
    ∀ site' key', site'.slot = site.slot →
      (∃ t' r, Makes (run d site' key').run t' (some r) ∧ (kept.after t).Honest t' ∧
        ∀ e ∈ t', e.storeFails = false) ∧
      ∀ t' r, Makes (run d site' key').run t' (some r) → (kept.after t).Honest t' →
        (∀ e ∈ t', e.storeFails = false) →
          (∃ report', r = .ok report' ∧ report'.success ∧ report'.created = false ∧
            report'.identity = report.identity) ∧
          (∀ e ∈ t', e.submitted? = none) ∧ (kept.after t).after t' = kept.after t := by
  obtain ⟨hupload, k, hk, hcomplete⟩ := complete_of_course (makes_run h) hhonest hsuccess
  refine ⟨⟨k, hk, hcomplete.identity, fun hsome i hi => ?_⟩, fun site' key' hslot => ⟨?_, ?_⟩⟩
  · rw [hupload] at hsome
    refine hcomplete.marked hsome i (UInt32.lt_iff_toNat_lt.2 ?_)
    rwa [toNat_toUInt32_of_lt hcomplete.size]
  · exact ⟨_, _, makes_transcript _ _ _, Kept.honest_transcript_serve _ _, Kept.storeFails_transcript_serve _ _⟩
  · rw [← hslot] at hk hcomplete
    exact fun t' r h' hhonest' hserved => hcomplete.repeat_of_course hk (makes_run h') hhonest' hserved

theorem success_idempotent_oneItem :
    ∃ t first u second, Makes (run oneItem oneItemSite default).run t (some (.ok first)) ∧
      Makes (run oneItem oneItemSite default).run u (some (.ok second)) ∧ first.created = true ∧
      second.created = false ∧ second.identity = first.identity ∧ (t.filterMap Exchange.submitted?).length = 2 ∧
      ∀ e ∈ u, e.submitted? = none := by
  obtain ⟨t, first, ht, hfirst, hmakes, hhonest⟩ :=
    @exists_makes_oneItemRun .empty (fun report => report.success && report.created) (by decide +kernel)
  rw [Bool.and_eq_true] at hfirst
  obtain ⟨-, hrepeat⟩ := success_idempotent hmakes hhonest hfirst.1
  obtain ⟨⟨u, r, hmakes', hhonest', hserved⟩, hsecond⟩ := hrepeat oneItemSite default rfl
  obtain ⟨⟨second, rfl, -, hcreated, hid⟩, hsubmitted, -⟩ := hsecond u r hmakes' hhonest' hserved
  refine ⟨t, first, u, second, hmakes, hmakes', hfirst.2, hcreated, hid, ?_, hsubmitted⟩
  rw [ht]
  decide +kernel

end MintDrop.Deployment
