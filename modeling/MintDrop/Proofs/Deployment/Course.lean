import MintDrop.Proofs.Deployment.Items
import MintDrop.Proofs.Record.Creation
import MintDrop.Proofs.Upload.Snapshots

/-!
# The course of a deploy run

`Deployment.Course` lists the calls of a deploy run that is cut off at any moment, phase by phase: the load, the
creation of the record (`Creation`, `Ensured`) and the upload (`Uploading`).  Every trace of `Deployment.run` is one
(`makes_run`).
-/

namespace MintDrop.Deployment

open Script

/-- Whether a script was cut off or has failed. -/
def Failed {ε α : Type} (r : Option (Except ε α)) : Prop := ∀ a, r ≠ some (.ok a)

theorem failed_none {ε α : Type} : Failed (none : Option (Except ε α)) := fun _ h => by cases h

theorem failed_error {ε α : Type} (e : ε) : Failed (some (.error e) : Option (Except ε α)) :=
  fun _ h => by cases h

theorem Failed.exists_error {ε α : Type} {x : Except ε α} (h : Failed (some x)) : ∃ e, x = .error e := by
  cases x with
  | error e => exact ⟨e, rfl⟩
  | ok a => exact absurd rfl (h a)

/-! ### Phases -/

/-- The calls of the creation of a record, and its result. -/
inductive Creation (key : Keypair) : List Exchange → Option (Except LedgerError Identity) → Prop
  | unasked {r : Option (Except LedgerError Identity)} : Failed r → Creation key [] r
  | asked {n : ℕ} {reply : Except LedgerError UInt64} {r : Option (Except LedgerError Identity)} : Failed r →
      Creation key [⟨.rent n, reply⟩] r
  | refused {n : ℕ} {reply : Except LedgerError UInt64} {tx : Transaction} {e : LedgerError}
      {r : Option (Except LedgerError Identity)} : Failed r → tx.createsRecord →
      Creation key [⟨.rent n, reply⟩, ⟨.submit tx, .error e⟩] r
  | confirmed {n : ℕ} {reply : Except LedgerError UInt64} {tx : Transaction} {signature : Signature}
      {r : Option (Except LedgerError Identity)} : r = none ∨ r = some (.ok (identityOf key)) →
      tx.createsRecord → Creation key [⟨.rent n, reply⟩, ⟨.submit tx, .ok signature⟩] r

/-- The calls by which a run that begins with the progress `p` comes to have a record, and its result. -/
inductive Ensured (d : Deployment) (site : Site) (count : UInt32) (key : Keypair) (p : Progress) :
    List Exchange → Option (Except Error (Identity × Bool × Progress)) → Prop
  | halted {r : Option (Except Error (Identity × Bool × Progress))} : Failed r →
      (∀ e, r = some (.error e) → ∃ e', p.identity = .error e' ∧ e = .corruptRecord e') →
      Ensured d site count key p [] r
  | kept {id : Identity} : p.identity = .ok (some id) →
      Ensured d site count key p [] (some (.ok (id, false, p)))
  | creating {t : List Exchange} {r : Option (Except LedgerError Identity)} : p.identity = .ok none →
      Creation key t r → Ensured d site count key p t none
  | uncreated {t : List Exchange} {e : LedgerError} {r : Option (Except Error (Identity × Bool × Progress))} :
      p.identity = .ok none → Creation key t (some (.error e)) → Failed r →
      (∀ e', r = some (.error e') → e' = .recordCreation e) → Ensured d site count key p t r
  | unsaved {t : List Exchange} {p' : Progress} {e : StoreError}
      {r : Option (Except Error (Identity × Bool × Progress))} : p.identity = .ok none →
      Creation key t (some (.ok (identityOf key))) → afterCreation d count (identityOf key) p = some p' →
      Failed r → (∀ e', r = some (.error e') → e' = .store e) →
      Ensured d site count key p (t ++ [⟨.save site.slot p', .error e⟩]) r
  | created {t : List Exchange} {p' : Progress} {r : Option (Except Error (Identity × Bool × Progress))} :
      p.identity = .ok none → Creation key t (some (.ok (identityOf key))) →
      afterCreation d count (identityOf key) p = some p' →
      r = none ∨ r = some (.ok (identityOf key, true, p')) →
      Ensured d site count key p (t ++ [⟨.save site.slot p', .ok ()⟩]) r

/-- The result of a run whose upload has ended. -/
def uploadedResult (id : Identity) (created : Bool) :
    Except Upload.Error (Upload.Report × Progress) → Except Error Report
  | .error e => .error (.upload e)
  | .ok (result, _) => .ok ⟨id, created, [.uninitialized, .recordCreated, .itemsUploading, .done], some result⟩

/-- The calls of the upload of a run, and its result. -/
inductive Uploading (d : Deployment) (site : Site) (id : Identity) (created : Bool) (p : Progress) :
    List Exchange → Option (Except Error Report) → Prop
  | skipped {r : Option (Except Error Report)} : d.uploadsItems = false →
      r = none ∨ r = some (.ok ⟨id, created, [.uninitialized, .recordCreated, .skippedUpload], none⟩) →
      Uploading d site id created p [] r
  | uploaded {t : List Exchange} {r : Option (Except Error Report)}
      {r' : Option (Except Upload.Error (Upload.Report × Progress))} : d.uploadsItems →
      Makes (Upload.run ⟨site.program, id.address, site.payer⟩ site.batching d.itemCount.toUInt32 p).run t r' →
      r = none ∨ r = r'.map (uploadedResult id created) → Uploading d site id created p t r

/-- What holds of the progress of a run before it has a record. -/
structure Readied (d : Deployment) (site : Site) (loaded : Option Progress) (p : Progress) : Prop where
  notPartial : p.isPartial = false
  program : p.program = (starting site loaded).program
  slot : p.slot = site.slot
  get? : ∀ i item, (starting site loaded).items.get? i = some item → p.items.get? i = some item
  isOnChain : ∀ i, p.items.isOnChain i = (starting site loaded).items.isOnChain i
  covers : d.uploadsItems → Upload.Covers p d.itemCount.toUInt32
  ready : readyProgress d site d.itemCount.toUInt32 (starting site loaded) = .ok p

/-- The calls of a run, cut off at any moment, and its result. -/
inductive Course (d : Deployment) (site : Site) (key : Keypair) :
    List Exchange → Option (Except Error Report) → Prop
  | unstarted {r : Option (Except Error Report)} : Failed r →
      (∀ e, r = some (.error e) → e = .tooManyItems d.itemCount ∧ UInt32.size ≤ d.itemCount.toNat) →
      Course d site key [] r
  | unloaded {e : StoreError} {r : Option (Except Error Report)} : Failed r →
      (∀ e', r = some (.error e') → e' = .store e) → Course d site key [⟨.load site.slot, .error e⟩] r
  | unready {loaded : Option Progress} {r : Option (Except Error Report)} : Failed r →
      (∀ e, r = some (.error e) →
        readyProgress d site d.itemCount.toUInt32 (starting site loaded) = .error e) →
      Course d site key [⟨.load site.slot, .ok loaded⟩] r
  | unensured {loaded : Option Progress} {p : Progress} {t : List Exchange}
      {r' : Option (Except Error (Identity × Bool × Progress))} {r : Option (Except Error Report)} :
      Readied d site loaded p → Ensured d site d.itemCount.toUInt32 key p t r' → Failed r → Failed r' →
      (r' = none → r = none) → (∀ e, r = some (.error e) → r' = some (.error e)) →
      Course d site key (⟨.load site.slot, .ok loaded⟩ :: t) r
  | uploading {loaded : Option Progress} {p p' : Progress} {id : Identity} {created : Bool}
      {t u : List Exchange} {r : Option (Except Error Report)} :
      Readied d site loaded p → Ensured d site d.itemCount.toUInt32 key p t (some (.ok (id, created, p'))) →
      Uploading d site id created p' u r → d.itemCount.toNat < UInt32.size →
      Course d site key (⟨.load site.slot, .ok loaded⟩ :: (t ++ u)) r

/-! ### Traces of the phases -/

section

variable {d : Deployment} {site : Site} {count : UInt32} {key : Keypair} {p : Progress} {id : Identity}
  {t : List Exchange}

theorem makes_createRecord {r : Option (Except LedgerError Identity)}
    (h : Makes (createRecord d site key).run t r) : Creation key t r := by
  rcases makes_andThen h with ⟨rfl, hrent⟩ | ⟨e, rfl, hrent⟩ | ⟨lamports, t₁, t₂, rfl, hrent, hrest⟩
  · rcases makes_ask_none (c := .rent _) rfl hrent with rfl | ⟨reply, rfl⟩
    · exact .unasked failed_none
    · exact .asked failed_none
  · obtain rfl := makes_ask_some (c := .rent _) rfl hrent
    exact .asked (failed_error e)
  obtain rfl := makes_ask_some (c := .rent _) rfl hrent
  rcases makes_andThen hrest with ⟨rfl, hcreate⟩ | ⟨e, rfl, hcreate⟩ | ⟨initialization, t₃, t₄, rfl, hcreate, hlast⟩
  · obtain ⟨rfl, -⟩ := makes_liftExcept hcreate
    exact .asked failed_none
  · obtain ⟨rfl, -⟩ := makes_liftExcept hcreate
    exact .asked (failed_error e)
  obtain ⟨rfl, hr | hr⟩ := makes_liftExcept hcreate
  · cases hr
  have hcreation := Record.isCreation_create (Option.some.inj hr).symm
  have htx : ∀ (payer : Address) (signers : List Keypair) (create : Instruction),
      (Transaction.mk payer signers [create, initialization]).createsRecord := by
    intro payer signers create
    exact List.any_eq_true.2 ⟨initialization, List.mem_cons_of_mem _ List.mem_cons_self, hcreation⟩
  rw [List.nil_append]
  rcases makes_andThen hlast with ⟨rfl, hsubmit⟩ | ⟨e, rfl, hsubmit⟩ | ⟨signature, t₅, t₆, rfl, hsubmit, hpure⟩
  · rcases makes_ask_none (c := .submit _) rfl hsubmit with rfl | ⟨reply, rfl⟩
    · exact .asked failed_none
    · cases reply with
      | error e => exact .refused failed_none (htx _ _ _)
      | ok signature => exact .confirmed (Or.inl rfl) (htx _ _ _)
  · obtain rfl := makes_ask_some (c := .submit _) rfl hsubmit
    exact .refused (failed_error e) (htx _ _ _)
  · obtain rfl := makes_ask_some (c := .submit _) rfl hsubmit
    obtain ⟨rfl, hr⟩ := makes_done hpure
    exact .confirmed hr (htx _ _ _)

theorem Creation.eq_of_ok (h : Creation key t (some (.ok id))) : id = identityOf key := by
  cases h with
  | unasked hfailed => exact absurd rfl (hfailed id)
  | asked hfailed => exact absurd rfl (hfailed id)
  | refused hfailed => exact absurd rfl (hfailed id)
  | confirmed hr =>
      rcases hr with hr | hr <;> cases hr
      rfl

theorem makes_newRecord {r : Option (Except Error (Identity × Progress))} (hidentity : p.identity = .ok none)
    (hpartial : p.isPartial = false) (h : Makes (newRecord d site count key p).run t r) :
    Ensured d site count key p t (r.map (·.map fun (id, p) => (id, true, p))) := by
  rcases makes_andThen h with ⟨rfl, hcreate⟩ | ⟨e, rfl, hcreate⟩ | ⟨id, t₁, t₂, rfl, hcreate, hrest⟩
  · exact .creating hidentity (makes_createRecord (makes_orElse_none hcreate))
  · obtain ⟨e', rfl, hdone⟩ := makes_orElse_error hcreate
    refine .uncreated hidentity (makes_createRecord hdone) (failed_error _) fun _ he => ?_
    cases he
    rfl
  have hcreation := makes_createRecord (makes_orElse_ok hcreate)
  obtain rfl := hcreation.eq_of_ok
  obtain ⟨p', hp'⟩ := Option.ne_none_iff_exists'.1 (afterCreation_ne_none d count (identityOf key) hidentity hpartial)
  rw [hp'] at hrest
  rcases makes_andThen hrest with ⟨rfl, hsave⟩ | ⟨e, rfl, hsave⟩ | ⟨u, t₃, t₄, rfl, hsave, hpure⟩
  · rcases makes_save_none hsave with rfl | ⟨reply, rfl⟩
    · rw [List.append_nil]
      exact .creating hidentity hcreation
    · cases reply with
      | error e => exact .unsaved hidentity hcreation hp' failed_none fun _ he => by cases he
      | ok u => exact .created hidentity hcreation hp' (Or.inl rfl)
  · obtain ⟨e', rfl, rfl⟩ := makes_save_error hsave
    refine .unsaved hidentity hcreation hp' (failed_error _) fun _ he => ?_
    cases he
    rfl
  · obtain rfl := makes_save_ok hsave
    obtain ⟨rfl, rfl | rfl⟩ := makes_done hpure
    · exact .created hidentity hcreation hp' (Or.inl rfl)
    · exact .created hidentity hcreation hp' (Or.inr rfl)

theorem makes_ensureRecord {r : Option (Except Error (Identity × Bool × Progress))}
    (hpartial : p.isPartial = false) (h : Makes (ensureRecord d site count key p).run t r) :
    Ensured d site count key p t r := by
  rcases makes_andThen h with ⟨rfl, hcheck⟩ | ⟨e, rfl, hcheck⟩ | ⟨identity, t₁, t₂, rfl, hcheck, hrest⟩
  · obtain ⟨rfl, -⟩ := makes_check hcheck
    exact .halted failed_none fun _ he => by cases he
  · obtain ⟨rfl, -, hcorrupt⟩ := makes_check hcheck
    refine .halted (failed_error e) fun _ he => ?_
    cases he
    exact hcorrupt e rfl
  obtain ⟨rfl, hidentity, -⟩ := makes_check hcheck
  cases identity with
  | some id =>
      obtain ⟨rfl, rfl | rfl⟩ := makes_done hrest
      · exact .halted failed_none fun _ he => by cases he
      · exact .kept (hidentity _ rfl)
  | none =>
      rw [List.nil_append]
      rcases makes_andThen hrest with ⟨rfl, hnew⟩ | ⟨e, rfl, hnew⟩ | ⟨x, t₃, t₄, rfl, hnew, hpure⟩
      · exact makes_newRecord (hidentity _ rfl) hpartial hnew
      · exact makes_newRecord (hidentity _ rfl) hpartial hnew
      · obtain ⟨rfl, rfl | rfl⟩ := makes_done hpure
        · rw [List.append_nil]
          exact makes_newRecord (hidentity _ rfl) hpartial hnew.cutOff
        · rw [List.append_nil]
          exact makes_newRecord (hidentity _ rfl) hpartial hnew

/-- A run that comes to its upload has found an identity, or has just created one and saved it. -/
theorem Ensured.cases_ok {created : Bool} {p' : Progress}
    (h : Ensured d site count key p t (some (.ok (id, created, p')))) :
    (t = [] ∧ created = false ∧ p' = p ∧ p.identity = .ok (some id)) ∨
      ∃ t₁, t = t₁ ++ [⟨.save site.slot p', .ok ()⟩] ∧ p.identity = .ok none ∧
        Creation key t₁ (some (.ok id)) ∧ afterCreation d count id p = some p' := by
  cases h with
  | halted hfailed => exact absurd rfl (hfailed _)
  | uncreated _ _ hfailed => exact absurd rfl (hfailed _)
  | unsaved _ _ _ hfailed => exact absurd rfl (hfailed _)
  | kept hid => exact Or.inl ⟨rfl, rfl, rfl, hid⟩
  | created hid hcreation hafter hr =>
      rcases hr with hr | hr <;> cases hr
      exact Or.inr ⟨_, rfl, hid, hcreation, hafter⟩

/-- What a run reports of its upload. -/
theorem Uploading.cases_ok {created : Bool} {report : Report}
    (h : Uploading d site id created p t (some (.ok report))) :
    report.identity = id ∧ report.created = created ∧ report.upload.isSome = d.uploadsItems ∧
      (d.uploadsItems → ∃ result q, report.upload = some result ∧
        Makes (Upload.run ⟨site.program, id.address, site.payer⟩ site.batching d.itemCount.toUInt32 p).run t
          (some (.ok (result, q)))) := by
  cases h with
  | skipped hd hr =>
      rcases hr with hr | hr <;> cases hr
      exact ⟨rfl, rfl, hd.symm, fun hd' => absurd hd' (Bool.eq_false_iff.1 hd)⟩
  | @uploaded _ _ r' hd hmakes hr =>
      rcases r' with - | e | ⟨result, q⟩ <;> rcases hr with hr | hr <;> cases hr
      exact ⟨rfl, rfl, hd.symm, fun _ => ⟨result, q, rfl, hmakes⟩⟩

/-- A run that ends with a report has come through all of its phases. -/
theorem Course.cases_ok {report : Report} (h : Course d site key t (some (.ok report))) :
    ∃ loaded p p' id created t₁ t₂, t = ⟨.load site.slot, .ok loaded⟩ :: (t₁ ++ t₂) ∧
      d.itemCount.toNat < UInt32.size ∧ Readied d site loaded p ∧
      Ensured d site d.itemCount.toUInt32 key p t₁ (some (.ok (id, created, p'))) ∧
      Uploading d site id created p' t₂ (some (.ok report)) := by
  cases h with
  | unstarted hfailed => exact absurd rfl (hfailed _)
  | unloaded hfailed => exact absurd rfl (hfailed _)
  | unready hfailed => exact absurd rfl (hfailed _)
  | unensured _ _ hfailed => exact absurd rfl (hfailed _)
  | uploading hready hensured huploading hsize => exact ⟨_, _, _, _, _, _, _, rfl, hsize, hready, hensured, huploading⟩

theorem readied_of_readyProgress {loaded : Option Progress}
    (h : readyProgress d site d.itemCount.toUInt32 (starting site loaded) = .ok p) :
    Readied d site loaded p := by
  have hready := h
  unfold readyProgress at h
  split_ifs at h with hpartial hd
  · rw [Bool.not_eq_true] at hpartial
    cases hfill : fillItems d 0 d.itemCount.toUInt32.toNat (starting site loaded).items with
    | error e =>
        rw [hfill] at h
        cases h
    | ok items =>
        rw [hfill] at h
        obtain rfl := Except.ok.inj h
        obtain ⟨hkept, hmarks, hfilled⟩ := fillItems_eq_ok hfill
        refine ⟨hpartial, rfl, rfl, hkept, hmarks, fun _ i hi => ?_, hready⟩
        have := hfilled i.toNat (UInt32.lt_iff_toNat_lt.1 hi)
        rwa [Nat.zero_add, UInt32.ofNat_toNat] at this
  · rw [Bool.not_eq_true] at hpartial
    obtain rfl := Except.ok.inj h
    exact ⟨hpartial, rfl, rfl, fun _ _ hi => hi, fun _ => rfl, fun hd' => absurd hd' hd, hready⟩

theorem makes_finish {id : Identity} {created : Bool} {r : Option (Except Error Report)}
    (h : Makes (finish d site d.itemCount.toUInt32 id created p).run t r) :
    Uploading d site id created p t r := by
  unfold finish at h
  split_ifs at h with hd
  · rcases makes_andThen h with ⟨rfl, hupload⟩ | ⟨e, rfl, hupload⟩ | ⟨result, t₁, t₂, rfl, hupload, hpure⟩
    · exact .uploaded hd (makes_orElse_none hupload) (Or.inl rfl)
    · obtain ⟨e', rfl, hdone⟩ := makes_orElse_error hupload
      exact .uploaded hd hdone (Or.inr rfl)
    · have hdone := makes_orElse_ok hupload
      obtain ⟨rfl, hr⟩ := makes_done hpure
      rw [List.append_nil]
      exact .uploaded hd hdone hr
  · rw [Bool.not_eq_true] at hd
    obtain ⟨rfl, hr⟩ := makes_done h
    exact .skipped hd hr

/-! ### Traces of runs -/

/-- Every trace of a run is a course of it. -/
theorem makes_run {r : Option (Except Error Report)} (h : Makes (run d site key).run t r) :
    Course d site key t r := by
  unfold run at h
  split_ifs at h with hcount
  · obtain ⟨rfl, rfl | rfl⟩ := makes_done h
    · exact .unstarted failed_none fun _ he => by cases he
    · refine .unstarted (failed_error _) fun _ he => ?_
      cases he
      exact ⟨rfl, hcount⟩
  rcases makes_andThen h with ⟨rfl, hload⟩ | ⟨e, rfl, hload⟩ | ⟨loaded, t₁, t₂, rfl, hload, hrest⟩
  · rcases makes_load_none hload with rfl | ⟨reply, rfl⟩
    · exact .unstarted failed_none fun _ he => by cases he
    · cases reply with
      | error e => exact .unloaded failed_none fun _ he => by cases he
      | ok loaded => exact .unready failed_none fun _ he => by cases he
  · obtain ⟨e', rfl, rfl⟩ := makes_load_error hload
    refine .unloaded (failed_error _) fun _ he => ?_
    cases he
    rfl
  obtain rfl := makes_load_ok hload
  rcases makes_andThen hrest with ⟨rfl, hcheck⟩ | ⟨e, rfl, hcheck⟩ | ⟨p, t₃, t₄, rfl, hcheck, hrecord⟩
  · obtain ⟨rfl, -⟩ := makes_check hcheck
    exact .unready failed_none fun _ he => by cases he
  · obtain ⟨rfl, -, herror⟩ := makes_check hcheck
    refine .unready (failed_error e) fun _ he => ?_
    cases he
    obtain ⟨_, hready, rfl⟩ := herror e rfl
    exact hready
  obtain ⟨rfl, hp, -⟩ := makes_check hcheck
  have hready := readied_of_readyProgress (hp p rfl)
  rw [List.nil_append, List.singleton_append]
  rcases makes_andThen hrecord with ⟨rfl, hensure⟩ | ⟨e, rfl, hensure⟩ | ⟨x, t₅, t₆, rfl, hensure, hfinish⟩
  · exact .unensured hready (makes_ensureRecord hready.notPartial hensure) failed_none failed_none (fun _ => rfl)
      fun _ he => by cases he
  · refine .unensured hready (makes_ensureRecord hready.notPartial hensure) (failed_error e) (failed_error e)
      (fun hr => by cases hr) fun _ he => ?_
    cases he
    rfl
  · obtain ⟨id, created, p'⟩ := x
    exact .uploading hready (makes_ensureRecord hready.notPartial hensure) (makes_finish hfinish)
      (Nat.lt_of_not_le hcount)

end

end MintDrop.Deployment
