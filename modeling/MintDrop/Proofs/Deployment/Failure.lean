import MintDrop.Proofs.Deployment.History

/-!
# Runs that fail

A run that fails in its checks has asked the store for its progress and made no other call, and one that fails to
create its record has had nothing confirmed (`Course.cases_error`).  In both cases ledger and store are left as they
were.  An item is missing if it is neither kept nor listed nor named by a template (`Unlisted`), and a run that gets
as far as its items fails with the first one that is missing (`readyProgress_eq_missing_iff`).
-/

namespace MintDrop.Deployment

open Script

/-- Whether an error ends a run before it does anything; a store error does so if it is that of the load. -/
def Early (site : Site) (t : List Exchange) : Error → Prop
  | .tooManyItems _ | .partialRecord _ | .missingItem _ | .corruptRecord _ => True
  | .store e => t.head? = some ⟨.load site.slot, .error e⟩
  | .recordCreation _ | .upload _ => False

/-- Whether the item at an index is neither kept nor listed nor named by a template. -/
def Unlisted (d : Deployment) (loaded : Option Progress) (i : UInt32) : Prop :=
  loaded.bind (·.items.get? i) = none ∧ d.catalogue.lookup i = none ∧ d.terms.sequel = none

section

variable {d : Deployment} {site : Site} {key : Keypair} {loaded : Option Progress} {p : Progress}
  {t : List Exchange} {e : Error}

/-! ### How a run fails -/

/-- How far a run that failed has come, by its error. -/
theorem Course.cases_error (h : Course d site key t (some (.error e))) :
    (t = [] ∧ e = .tooManyItems d.itemCount) ∨ (∃ e', e = .store e' ∧ t = [⟨.load site.slot, .error e'⟩]) ∨
      ∃ loaded t', t = ⟨.load site.slot, .ok loaded⟩ :: t' ∧
        (t' = [] ∧ (readyProgress d site d.itemCount.toUInt32 (starting site loaded) = .error e ∨
            ∃ e', e = .corruptRecord e') ∨
          (∃ e', e = .recordCreation e' ∧ Creation key t' (some (.error e'))) ∨ (∃ e', e = .store e') ∨
          ∃ e', e = .upload (.store e')) := by
  cases h with
  | unstarted _ hmany => exact Or.inl ⟨rfl, (hmany e rfl).1⟩
  | unloaded _ he => exact Or.inr (Or.inl ⟨_, he e rfl, rfl⟩)
  | unready _ hready => exact Or.inr (Or.inr ⟨_, _, rfl, Or.inl ⟨rfl, Or.inl (hready e rfl)⟩⟩)
  | unensured hready hensured _ _ _ hsame =>
      refine Or.inr (Or.inr ⟨_, _, rfl, ?_⟩)
      obtain rfl := hsame e rfl
      cases hensured with
      | halted _ hcorrupt =>
          obtain ⟨e', -, he⟩ := hcorrupt e rfl
          exact Or.inl ⟨rfl, Or.inr ⟨e', he⟩⟩
      | uncreated _ hcreation _ he => exact Or.inr (Or.inl ⟨_, he e rfl, hcreation⟩)
      | unsaved _ _ _ _ he => exact Or.inr (Or.inr (Or.inl ⟨_, he e rfl⟩))
      | created _ _ _ hr => rcases hr with hr | hr <;> cases hr
  | uploading hready hensured huploading =>
      refine Or.inr (Or.inr ⟨_, _, rfl, Or.inr (Or.inr (Or.inr ?_))⟩)
      cases huploading with
      | skipped _ hr => rcases hr with hr | hr <;> cases hr
      | @uploaded _ _ r' hd hmakes hr =>
          rcases r' with - | e' | ⟨result, q⟩ <;> rcases hr with hr | hr <;> cases hr
          -- The items that were filled in before the record was created are still there.
          obtain ⟨e, rfl⟩ := Upload.store_of_error (covers_of_ensured (hready.covers hd) hensured) hmakes
          exact ⟨e, rfl⟩

theorem Creation.unconfirmed {e : LedgerError} (h : Creation key t (some (.error e))) :
    ∀ x ∈ t, x.offered? = none ∧ x.confirmed? = none := by
  cases h with
  | unasked => exact fun _ hx => by cases hx
  | asked => exact List.forall_mem_singleton.2 ⟨rfl, rfl⟩
  | refused =>
      exact List.forall_mem_cons.2 ⟨⟨rfl, rfl⟩, List.forall_mem_singleton.2 ⟨rfl, rfl⟩⟩
  | confirmed hr => rcases hr with hr | hr <;> cases hr

theorem idle_of_early (h : Course d site key t (some (.error e))) (hearly : Early site t e) :
    ∀ x ∈ t, x.submitted? = none ∧ x.offered? = none := by
  rcases h.cases_error with ⟨rfl, -⟩ | ⟨e', -, rfl⟩ |
    ⟨loaded, t', rfl, ⟨rfl, -⟩ | ⟨e', rfl, -⟩ | ⟨e', rfl⟩ | ⟨e', rfl⟩⟩
  · exact fun _ hx => by cases hx
  · exact List.forall_mem_singleton.2 ⟨rfl, rfl⟩
  · exact List.forall_mem_singleton.2 ⟨rfl, rfl⟩
  · cases hearly
  · cases hearly
  · cases hearly

theorem unconfirmed_of_recordCreation {e' : LedgerError}
    (h : Course d site key t (some (.error (.recordCreation e')))) :
    ∀ x ∈ t, x.offered? = none ∧ x.confirmed? = none := by
  rcases h.cases_error with ⟨rfl, -⟩ | ⟨e', he, -⟩ |
    ⟨loaded, t', rfl, ⟨rfl, -⟩ | ⟨e', -, hcreation⟩ | ⟨e', he⟩ | ⟨e', he⟩⟩
  · exact fun _ hx => by cases hx
  · cases he
  · exact List.forall_mem_singleton.2 ⟨rfl, rfl⟩
  · exact List.forall_mem_cons.2 ⟨⟨rfl, rfl⟩, hcreation.unconfirmed⟩
  · cases he
  · cases he

theorem after_eq_of_offered?_eq_none (h : ∀ x ∈ t, x.offered? = none) (kept : Kept) : kept.after t = kept := by
  refine after_eq_of_saved?_eq_none fun x hx => ?_
  by_contra hsaved
  obtain ⟨q, hq⟩ := Option.ne_none_iff_exists'.1 hsaved
  have := h x hx
  rw [Exchange.offered?_of_saved? hq] at this
  cases this

/-! ### The first missing item -/

theorem lacks_starting_iff {i : UInt32} : lacks d (starting site loaded).items i ↔ Unlisted d loaded i := by
  rw [lacks_iff, Unlisted]
  cases loaded <;> rfl

theorem readyProgress_eq_missing_iff (hd : d.uploadsItems) (hcount : d.itemCount.toNat < UInt32.size)
    (hpartial : (starting site loaded).isPartial = false) {i : UInt32} :
    readyProgress d site d.itemCount.toUInt32 (starting site loaded) = .error (.missingItem i) ↔
      i.toNat < d.itemCount.toNat ∧ Unlisted d loaded i ∧ ∀ j < i, ¬ Unlisted d loaded j := by
  have hfill : readyProgress d site d.itemCount.toUInt32 (starting site loaded) = .error (.missingItem i) ↔
      fillItems d 0 d.itemCount.toNat (starting site loaded).items = .error (.missingItem i) := by
    rw [readyProgress, hpartial, if_neg Bool.false_ne_true, if_pos hd, toNat_toUInt32_of_lt hcount]
    cases fillItems d 0 d.itemCount.toNat (starting site loaded).items <;> simp [Except.map]
  rw [hfill, fillItems_eq_error_iff (by omega), Option.map_eq_some_iff]
  simp only [List.find?_range'_eq_some, List.mem_range'_1, lacks_starting_iff, Bool.not_eq_true',
    Bool.eq_false_iff, ne_eq]
  constructor
  · rintro ⟨n, ⟨hunlisted, hn, hfirst⟩, hi⟩
    obtain rfl : UInt32.ofNat n = i := Error.missingItem.inj hi
    have hn' : (UInt32.ofNat n).toNat = n := UInt32.toNat_ofNat_of_lt' (by omega)
    refine ⟨by omega, hunlisted, fun j hj => ?_⟩
    have hlt : j.toNat < n := hn' ▸ UInt32.lt_iff_toNat_lt.1 hj
    rw [← UInt32.ofNat_toNat (x := j)]
    exact hfirst j.toNat (Nat.zero_le _) hlt
  · rintro ⟨hi, hunlisted, hfirst⟩
    refine ⟨i.toNat, ⟨?_, ⟨Nat.zero_le _, by omega⟩, fun n _ hn => ?_⟩, by rw [UInt32.ofNat_toNat]⟩
    · rwa [UInt32.ofNat_toNat]
    · refine hfirst _ (UInt32.lt_iff_toNat_lt.2 ?_)
      rwa [UInt32.toNat_ofNat_of_lt' (by omega)]

/-- A run that has loaded its progress fails in the same way as the check of that progress. -/
theorem Course.eq_error_iff_missing {r : Except Error Report} {i : UInt32} (h : Course d site key t (some r))
    (hhead : t.head? = some ⟨.load site.slot, .ok loaded⟩) :
    r = .error (.missingItem i) ↔
      readyProgress d site d.itemCount.toUInt32 (starting site loaded) = .error (.missingItem i) := by
  constructor
  · rintro rfl
    rcases h.cases_error with ⟨rfl, -⟩ | ⟨e', he, -⟩ |
      ⟨loaded', t', rfl, ⟨rfl, hready | ⟨e', he⟩⟩ | ⟨e', he, -⟩ | ⟨e', he⟩ | ⟨e', he⟩⟩
    · cases hhead
    · cases he
    · cases hhead
      exact hready
    all_goals cases he
  · intro hfails
    cases h with
    | unstarted => cases hhead
    | unloaded => cases hhead
    | unready hfailed hready =>
        cases hhead
        obtain ⟨e, rfl⟩ := hfailed.exists_error
        exact congrArg Except.error (Except.error.inj ((hready e rfl).symm.trans hfails))
    | unensured hready | uploading hready =>
        cases hhead
        rw [hready.ready] at hfails
        cases hfails

theorem exists_first {P : UInt32 → Prop} {i : UInt32} (h : P i) : ∃ i, P i ∧ ∀ j < i, ¬ P j := by
  obtain ⟨first, hP, hfirst⟩ := (measure UInt32.toNat).wf.has_min {i | P i} ⟨i, h⟩
  exact ⟨first, hP, fun j hj hPj => hfirst j hPj (UInt32.lt_iff_toNat_lt.1 hj)⟩

theorem exists_makes_of_load (d : Deployment) (site : Site) (key : Keypair) (loaded : Option Progress)
    (hcount : d.itemCount.toNat < UInt32.size) :
    ∃ t r, Makes (run d site key).run t (some r) ∧ t.head? = some ⟨.load site.slot, .ok loaded⟩ := by
  have hmakes := makes_transcript Kept.serve (run d site key).run fun _ => loaded
  have hhonest := Kept.honest_transcript_serve (run d site key).run fun _ => loaded
  have hserved := Kept.storeFails_transcript_serve (run d site key).run fun _ => loaded
  refine ⟨_, _, hmakes, ?_⟩
  generalize Script.transcript Kept.serve (run d site key).run (fun _ => loaded) = made at hmakes hhonest hserved ⊢
  obtain ⟨t, r⟩ := made
  have hcourse := makes_run hmakes
  dsimp only at hcourse hhonest hserved ⊢
  cases hcourse with
  | unstarted hfailed hmany =>
      obtain ⟨e, rfl⟩ := hfailed.exists_error
      exact absurd (hmany e rfl).2 (Nat.not_le_of_lt hcount)
  | unloaded => cases hserved _ List.mem_cons_self
  | unready | unensured | uploading =>
      rw [← show _ = loaded from hhonest.1]
      rfl

end

/-- A run that fails with its count, with the load of its progress, with just one part of an identity, with an
address that is none or with a missing item submits nothing and saves nothing, and a run that fails to create its
record saves nothing and has nothing confirmed: what is kept stays as it was.  A run that uploads items and has
loaded no part of an identity fails with a missing item just if there is one, and with the first. -/
theorem failures_harmless (d : Deployment) (site : Site) (key : Keypair) :
    (∀ t e, Makes (run d site key).run t (some (.error e)) → Early site t e →
      (∀ x ∈ t, x.submitted? = none ∧ x.offered? = none) ∧ ∀ kept : Kept, kept.after t = kept) ∧
    (∀ t e, Makes (run d site key).run t (some (.error (.recordCreation e))) →
      (∀ x ∈ t, x.offered? = none ∧ x.confirmed? = none) ∧ ∀ kept : Kept, kept.after t = kept) ∧
    (d.uploadsItems → d.itemCount.toNat < UInt32.size →
      ∀ loaded, (starting site loaded).isPartial = false →
        (∃ t r, Makes (run d site key).run t (some r) ∧ t.head? = some ⟨.load site.slot, .ok loaded⟩) ∧
        ∀ t r, Makes (run d site key).run t (some r) → t.head? = some ⟨.load site.slot, .ok loaded⟩ →
          ((∃ i, r = .error (.missingItem i)) ↔ ∃ i, i.toNat < d.itemCount.toNat ∧ Unlisted d loaded i) ∧
          ∀ i, r = .error (.missingItem i) ↔
            i.toNat < d.itemCount.toNat ∧ Unlisted d loaded i ∧ ∀ j < i, ¬ Unlisted d loaded j) := by
  refine ⟨fun t e h hearly => ?_, fun t e h => ?_, fun hd hcount loaded hpartial =>
    ⟨exists_makes_of_load d site key loaded hcount, fun t r h hhead => ?_⟩⟩
  · have hidle := idle_of_early (makes_run h) hearly
    exact ⟨hidle, after_eq_of_offered?_eq_none fun x hx => (hidle x hx).2⟩
  · have hunconfirmed := unconfirmed_of_recordCreation (makes_run h)
    exact ⟨hunconfirmed, after_eq_of_offered?_eq_none fun x hx => (hunconfirmed x hx).1⟩
  · have hmissing : ∀ i, r = .error (.missingItem i) ↔
        i.toNat < d.itemCount.toNat ∧ Unlisted d loaded i ∧ ∀ j < i, ¬ Unlisted d loaded j := fun i =>
      ((makes_run h).eq_error_iff_missing hhead).trans (readyProgress_eq_missing_iff hd hcount hpartial)
    refine ⟨⟨?_, ?_⟩, hmissing⟩
    · rintro ⟨i, hr⟩
      obtain ⟨hi, hunlisted, -⟩ := (hmissing i).1 hr
      exact ⟨i, hi, hunlisted⟩
    · rintro ⟨i, hi, hunlisted⟩
      obtain ⟨first, hfirst, hleast⟩ := exists_first hunlisted
      have hle : first.toNat ≤ i.toNat := by
        by_contra hlt
        exact hleast i (UInt32.lt_iff_toNat_lt.2 (Nat.lt_of_not_le hlt)) hunlisted
      exact ⟨first, (hmissing first).2 ⟨by omega, hfirst, hleast⟩⟩

/-- The drop of one item, which is not listed any more. -/
theorem failures_harmless_unlisted :
    ∃ t, Makes (run { oneItem with catalogue := [] } oneItemSite default).run t (some (.error (.missingItem 0))) ∧
      ∀ x ∈ t, x.submitted? = none ∧ x.offered? = none := by
  obtain ⟨hearly, -, hmissing⟩ := failures_harmless { oneItem with catalogue := [] } oneItemSite default
  obtain ⟨⟨t, r, h, hhead⟩, hfirst⟩ := hmissing rfl (by decide) none rfl
  have hr := ((hfirst t r h hhead).2 0).2 ⟨by decide, ⟨rfl, rfl, rfl⟩, fun j hj => absurd hj UInt32.not_lt_zero⟩
  subst hr
  exact ⟨t, h, (hearly t _ h trivial).1⟩

end MintDrop.Deployment
