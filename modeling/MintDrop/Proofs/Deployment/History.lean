import MintDrop.Proofs.Deployment.Course

/-!
# Histories of deploy runs

A `History` is what runs under one name have done, one after another, over a store that keeps what was saved
last.  When a run comes to its upload, what is kept has the identity of its record and lags behind the progress of
the run by marks and items at most (`kept_of_ensured`).
-/

namespace MintDrop.Deployment

open Script

/-- The calls of runs under one name, one after another, if each of them does as `Q` asks and the store kept
`kept` before the first. -/
inductive History (slot : Slot) (Q : Deployment → Option (Except Error Report) → Prop) (kept : Kept) :
    List Exchange → Prop
  | none : History slot Q kept []
  | run {past t : List Exchange} {d : Deployment} {site : Site} {key : Keypair}
      {r : Option (Except Error Report)} : History slot Q kept past → site.slot = slot → Q d r →
      Makes (Deployment.run d site key).run t r → (kept.after past).Honest t → History slot Q kept (past ++ t)

/-! ### What is kept -/

section

variable {d : Deployment} {site : Site} {key : Keypair} {loaded : Option Progress} {p p' k : Progress}
  {id : Identity} {created : Bool} {t : List Exchange} {kept : Kept}

theorem identity_eq_of_program_eq (h : p.program = p'.program) : p.identity = p'.identity := by
  rw [Progress.identity, Progress.identity, h]

theorem isPartial_eq_of_program_eq (h : p.program = p'.program) : p.isPartial = p'.isPartial := by
  rw [Progress.isPartial, Progress.isPartial, h]

/-- The creation of a record saves nothing. -/
theorem Creation.savesTo {r : Option (Except LedgerError Identity)} (h : Creation key t r) (slot : Slot) :
    SavesTo slot t ∧ lastSaved? t = none := by
  cases h with
  | unasked => exact ⟨savesTo_nil, rfl⟩
  | asked => exact ⟨savesTo_cons.2 ⟨fun _ _ hcall => (by cases hcall), savesTo_nil⟩, rfl⟩
  | refused | confirmed =>
      refine ⟨savesTo_cons.2 ⟨fun _ _ hcall => (by cases hcall), ?_⟩, rfl⟩
      exact savesTo_cons.2 ⟨fun _ _ hcall => (by cases hcall), savesTo_nil⟩

theorem Creation.after_eq {r : Option (Except LedgerError Identity)} (h : Creation key t r) (slot : Slot) :
    kept.after t slot = kept slot := by
  obtain ⟨hsaves, hlast⟩ := h.savesTo slot
  rw [after_eq_lastSaved hsaves, hlast]
  rfl

/-- Whether kept progress is what a run goes on with, but for marks and items that were not saved. -/
structure Behind (k p : Progress) : Prop where
  program : k.program = p.program
  isOnChain : ∀ i, k.items.isOnChain i → p.items.isOnChain i ∧ k.line? i = p.line? i

theorem Readied.behind (h : Readied d site loaded p) (hk : loaded = some k) : Behind k p := by
  subst hk
  refine ⟨h.program.symm, fun i hi => ⟨?_, ?_⟩⟩
  · rw [h.isOnChain]
    exact hi
  · obtain ⟨item, hitem⟩ := Items.exists_get?_of_isOnChain hi
    rw [Progress.line?, Progress.line?, h.get? i item hitem, hitem]

theorem behind_stamp (p : Progress) (slot : Slot) : Behind (p.stamp slot) p := ⟨rfl, fun _ hi => ⟨hi, rfl⟩⟩

/-- When a run comes to its upload, what is kept has the identity of the record. -/
theorem kept_of_ensured {count : UInt32} (hready : Readied d site loaded p) (hkept : loaded = kept site.slot)
    (h : Ensured d site count key p t (some (.ok (id, created, p')))) :
    p'.identity = .ok (some id) ∧ p'.slot = site.slot ∧ ∃ k, kept.after t site.slot = some k ∧ Behind k p' := by
  rcases h.cases_ok with ⟨rfl, -, rfl, hid⟩ | ⟨t₁, rfl, -, -, hafter⟩
  · refine ⟨hid, hready.slot, ?_⟩
    cases loaded with
    | none =>
        rw [identity_eq_of_program_eq hready.program] at hid
        cases hid
    | some k => exact ⟨k, hkept.symm, hready.behind rfl⟩
  · refine ⟨identity_afterCreation hafter, (afterCreation_eq_some hafter).2.1.trans hready.slot, ?_⟩
    refine ⟨p'.stamp site.slot, ?_, behind_stamp p' site.slot⟩
    rw [Kept.after_append, Kept.after_cons, Kept.after_nil]
    exact kept_save ..

theorem covers_of_ensured {count : UInt32} (hp : Upload.Covers p count)
    (h : Ensured d site count key p t (some (.ok (id, created, p')))) : Upload.Covers p' count := by
  rcases h.cases_ok with ⟨-, -, rfl, -⟩ | ⟨t₁, -, -, -, hafter⟩
  · exact hp
  · intro i hi
    rcases (afterCreation_eq_some hafter).2.2 with hitems | ⟨s, -, hitems⟩
    · rw [hitems]
      exact hp i hi
    · rw [hitems]
      exact contains_placeholders (hp i hi)

end

/-! ### A drop of one item -/

/-- A drop of one item, which is uploaded. -/
def oneItem : Deployment where
  terms :=
    { tag := "", price := 0, symbol := "", sellerFeeBasisPoints := 0, maxSupply := 0, isMutable := false
      retainAuthority := false, goLiveDate := none, endRule := none, creators := [], hidden := none
      whitelist := none, itemsAvailable := 1, gatekeeper := none, sequel := none }
  treasury := .zero
  tokenMint := none
  catalogue := [(0, ⟨"a", "b"⟩)]

/-- Where the drop of one item is deployed. -/
def oneItemSite : Site := ⟨.zero, default, ⟨"e", "c"⟩, .standard⟩

/-- What a run of a drop there does, and its result, if nothing fails. -/
def servedRun (d : Deployment) (kept : Kept) : List Exchange × Except Error Report :=
  (run d oneItemSite default).run.transcript Kept.serve kept

theorem exists_makes_servedRun {d : Deployment} {kept : Kept} {P : Report → Bool}
    (h : (servedRun d kept).2.toOption.any P = true) :
    ∃ t report, t = (servedRun d kept).1 ∧ P report = true ∧
      Makes (run d oneItemSite default).run t (some (.ok report)) ∧ kept.Honest t := by
  obtain ⟨report, hP, hmakes⟩ := exists_makes_ok h
  exact ⟨_, report, rfl, hP, hmakes, Kept.honest_transcript_serve _ _⟩

/-- What a run of the drop of one item does, and its result, if nothing fails. -/
def oneItemRun (kept : Kept) : List Exchange × Except Error Report :=
  (run oneItem oneItemSite default).run.transcript Kept.serve kept

theorem exists_makes_oneItemRun {kept : Kept} {P : Report → Bool}
    (h : (oneItemRun kept).2.toOption.any P = true) :
    ∃ t report, t = (oneItemRun kept).1 ∧ P report = true ∧
      Makes (run oneItem oneItemSite default).run t (some (.ok report)) ∧ kept.Honest t :=
  exists_makes_servedRun h

end MintDrop.Deployment
