import MintDrop.Proofs.Deployment.Failure
import MintDrop.Proofs.Deployment.Identity
import MintDrop.Proofs.Upload.Marks

/-!
# Checks that still hold where they are relied on

A deploy run checks its progress before it acts on it, and some of what it checks is asked again later: whether every
item is there, and whether an identity can be entered.  The first answer is still right by then, whatever ledger and
store reply in between, so that the later question never fails a run (`guards_hold`): an upload finds all of its items
(`Course.listed`), just one part of an identity is only ever found in what was loaded
(`Course.isPartial_of_partialRecord`), and the identity of a new record is entered (`Course.enters`).
-/

namespace MintDrop

open Script

/-! ### The wording of failures -/

/-- No error of the ledger is worded like an item that is not known. -/
theorem LedgerError.message_ne_unlisted (e : LedgerError) : e.message ≠ Upload.Reason.unlisted.message := by
  have hinitial : e.message.toList.head? ≠ some 'g' := by
    unfold LedgerError.message
    cases e <;> simp
  intro h
  unfold Upload.Reason.message at h
  simp [h] at hinitial

/-- A failure is worded like an item that is not known only if it is one. -/
theorem Upload.Reason.message_eq_unlisted_iff {reason : Upload.Reason} :
    reason.message = Upload.Reason.unlisted.message ↔ reason = .unlisted := by
  cases reason with
  | unlisted => simp
  | ledger e =>
      simp only [reduceCtorEq, iff_false]
      exact e.message_ne_unlisted
  | unsaved signature e =>
      refine ⟨fun h => ?_, fun h => by cases h⟩
      have hinitial := congrArg (fun s => s.toList.head?) h
      unfold Upload.Reason.message at hinitial
      simp at hinitial

/-! ### Items of an upload -/

/-- All groups of an upload that has its items find them, in whatever order they take their steps. -/
theorem Upload.listed_of_ok {site : Site} {batching : Batching} {count : UInt32} {p q : Progress}
    {t : List Exchange} {report : Report} (hp : Covers p count)
    (h : Makes (run site batching count p).run t (some (.ok (report, q)))) :
    ∀ f ∈ report.failures, f.reason ≠ .unlisted := by
  obtain ⟨log, b, hcourse, hfinal⟩ := makes_run hp h
  obtain ⟨hended, reply, hresult, -⟩ := hfinal _ rfl
  cases reply with
  | error e => cases hresult
  | ok u =>
      cases hresult
      intro f hf hunlisted
      have hexact := exact_of_sound hp (sound_of_steps hcourse.steps) hended (List.Perm.refl _)
      rcases hexact.reasons f hf with ⟨e, hreason, -⟩ | ⟨signature, e, hreason, -⟩
      · simp [hunlisted] at hreason
      · simp [hunlisted] at hreason

namespace Deployment

section

variable {d : Deployment} {site : Site} {key : Keypair} {count : UInt32} {p : Progress} {t : List Exchange}

/-- A run that uploads items comes to its upload with all of them. -/
theorem Course.listed {report : Report} {result : Upload.Report} (h : Course d site key t (some (.ok report)))
    (hresult : report.upload = some result) : ∀ f ∈ result.failures, f.reason ≠ .unlisted := by
  obtain ⟨loaded, p, p', id, created, t₁, t₂, rfl, -, hready, hensured, huploading⟩ := h.cases_ok
  obtain ⟨-, -, hsome, hupload⟩ := huploading.cases_ok
  have hd : d.uploadsItems := by rw [← hsome, hresult]; rfl
  obtain ⟨result', q, hresult', hmakes⟩ := hupload hd
  obtain rfl := Option.some.inj (hresult.symm.trans hresult')
  exact Upload.listed_of_ok (covers_of_ensured (hready.covers hd) hensured) hmakes

/-! ### The identity of a record -/

/-- The check of the progress fails with just one part of an identity or with a missing item. -/
theorem readyProgress_eq_error {e : Error} (h : readyProgress d site count p = .error e) :
    (e = .partialRecord site.slot ∧ p.isPartial) ∨ ∃ i, e = .missingItem i := by
  unfold readyProgress at h
  split_ifs at h with hpartial hd
  · exact Or.inl ⟨(Except.error.inj h).symm, hpartial⟩
  · right
    cases hfill : fillItems d 0 count.toNat p.items with
    | ok items =>
        rw [hfill] at h
        cases h
    | error e' =>
        rw [hfill] at h
        obtain rfl := Except.error.inj h
        have hsize : 0 + count.toNat ≤ UInt32.size := by
          have := count.toNat_lt_size
          omega
        obtain ⟨n, -, hn⟩ := Option.map_eq_some_iff.1 ((fillItems_eq_error_iff hsize).1 hfill)
        exact ⟨_, hn.symm⟩

/-- Just one part of an identity is found only in what was loaded, and before anything else is done. -/
theorem Course.isPartial_of_partialRecord {slot : Slot}
    (h : Course d site key t (some (.error (.partialRecord slot)))) :
    ∃ loaded, t = [⟨.load site.slot, .ok loaded⟩] ∧ (starting site loaded).isPartial := by
  rcases h.cases_error with ⟨-, he⟩ | ⟨e', he, -⟩ |
    ⟨loaded, t', rfl, ⟨rfl, hready | ⟨e', he⟩⟩ | ⟨e', he, -⟩ | ⟨e', he⟩ | ⟨e', he⟩⟩
  · cases he
  · cases he
  · rcases readyProgress_eq_error hready with ⟨-, hpartial⟩ | ⟨i, he⟩
    · exact ⟨loaded, rfl, hpartial⟩
    · cases he
  all_goals cases he

/-- A run in which a record was created goes on to hand its identity to the store. -/
theorem Course.enters {r : Except Error Report} {e : Exchange} (h : Course d site key t (some r)) (he : e ∈ t)
    (hcreates : Creates e) :
    ∃ x ∈ t, ∃ q, x.offered? = some q ∧ q.identity = .ok (some (identityOf key)) := by
  have hload : ∀ {reply}, e ≠ ⟨.load site.slot, reply⟩ := by
    rintro reply rfl
    obtain ⟨tx, htx, -⟩ := hcreates
    cases htx
  cases h with
  | unstarted => cases he
  | unloaded | unready => exact absurd (List.mem_singleton.1 he) hload
  | unensured _ hensured _ hfailed hcut =>
      have he := (List.mem_cons.1 he).resolve_left hload
      cases hensured with
      | halted => cases he
      | kept => cases he
      | creating => cases hcut rfl
      | uncreated _ hcreation => exact absurd hcreates (not_creates_of_creation hcreation e he)
      | @unsaved t q _ _ _ _ hafter | @created t q _ _ _ hafter =>
          refine ⟨_, List.mem_cons_of_mem _ (List.mem_append_right t (List.mem_singleton_self _)), q, rfl, ?_⟩
          exact identity_afterCreation hafter
  | @uploading loaded p q id created t u _ hready hensured huploading =>
      have he := (List.mem_cons.1 he).resolve_left hload
      rcases hensured.cases_ok with ⟨rfl, -, rfl, -⟩ | ⟨t₁, rfl, -, hcreation, hafter⟩
      · refine absurd (triesToCreate_of_creates hcreates) ?_
        exact not_triesToCreate_of_uploading hready.covers huploading e he
      · obtain rfl := hcreation.eq_of_ok
        refine ⟨⟨.save site.slot q, .ok ()⟩, ?_, q, rfl, identity_afterCreation hafter⟩
        simp

end

/-- Whatever ledger and store reply and in whatever order groups get their turns, no run fails because an upload misses
an item, and no group is reported because it refers to an item that is not known.  A run fails with just one part of
an identity only if that is what it has loaded, and then it has done nothing else; once a record was created, the run
hands its identity to the store and does not fail in this way. -/
theorem guards_hold (d : Deployment) (site : Site) (key : Keypair) :
    (∀ t i, ¬ Makes (run d site key).run t (some (.error (.upload (.missingItem i))))) ∧
    (∀ t report result, Makes (run d site key).run t (some (.ok report)) → report.upload = some result →
      ∀ f ∈ result.failures, f.reason ≠ .unlisted ∧ f.reason.message ≠ "group references an uncached item") ∧
    (∀ t slot, Makes (run d site key).run t (some (.error (.partialRecord slot))) →
      ∃ loaded, t = [⟨.load site.slot, .ok loaded⟩] ∧ (starting site loaded).isPartial) ∧
    ∀ t r, Makes (run d site key).run t (some r) → (∃ e ∈ t, Creates e) →
      (∀ slot, r ≠ .error (.partialRecord slot)) ∧
        ∃ x ∈ t, ∃ p, x.offered? = some p ∧ p.identity = .ok (some (identityOf key)) := by
  refine ⟨fun t i h => ?_, fun t report result h hresult f hf => ?_, fun t slot h =>
    (makes_run h).isPartial_of_partialRecord, ?_⟩
  · rcases (makes_run h).cases_error with ⟨-, he⟩ | ⟨e', he, -⟩ |
      ⟨loaded, t', -, ⟨-, hready | ⟨e', he⟩⟩ | ⟨e', he, -⟩ | ⟨e', he⟩ | ⟨e', he⟩⟩
    · cases he
    · cases he
    · rcases readyProgress_eq_error hready with ⟨he, -⟩ | ⟨i, he⟩ <;> cases he
    all_goals cases he
  · have hreason := (makes_run h).listed hresult f hf
    exact ⟨hreason, fun hmessage => hreason (Upload.Reason.message_eq_unlisted_iff.1 hmessage)⟩
  · rintro t r h ⟨e, he, hcreates⟩
    refine ⟨?_, (makes_run h).enters he hcreates⟩
    rintro slot rfl
    obtain ⟨loaded, rfl, -⟩ := (makes_run h).isPartial_of_partialRecord
    obtain rfl := List.mem_singleton.1 he
    obtain ⟨tx, htx, -⟩ := hcreates
    cases htx

/-- The record of one item is created, but its group is refused; another run has loaded an address without a tag. -/
theorem guards_hold_oneItem :
    (∃ t report result f, Makes (run oneItem oneItemSite default).run t (some (.ok report)) ∧
      report.upload = some result ∧ f ∈ result.failures ∧
      f.reason.message ≠ "group references an uncached item" ∧ (∃ e ∈ t, Creates e) ∧
      ∃ x ∈ t, ∃ p, x.offered? = some p ∧ p.identity = .ok (some (identityOf default))) ∧
    ∃ t slot loaded, Makes (run oneItem oneItemSite default).run t (some (.error (.partialRecord slot))) ∧
      t = [⟨.load oneItemSite.slot, .ok loaded⟩] ∧ (starting oneItemSite loaded).isPartial := by
  obtain ⟨-, hlisted, hpartial, henters⟩ := guards_hold oneItem oneItemSite default
  constructor
  · obtain ⟨report, hfailed, h⟩ := @exists_makes_ok _ _ _ (Upload.judge false) (run oneItem oneItemSite default).run
      [true, true, false] (fun report => report.upload.any fun result => !result.failures.isEmpty) (by decide +kernel)
    obtain ⟨result, hresult, hfailures⟩ := (Option.any_eq_true _ _).1 hfailed
    obtain ⟨f, hf⟩ := List.exists_mem_of_ne_nil result.failures (by simpa using hfailures)
    obtain ⟨e, he, hcreates⟩ := List.any_eq_true.1
      (show (transcript (Upload.judge false) (run oneItem oneItemSite default).run [true, true, false]).1.any
        (fun e => e.confirmed?.any (·.createsRecord)) = true by decide +kernel)
    have hcreated : Creates e := (Option.any_eq_true _ _).1 hcreates
    exact ⟨_, report, result, f, h, hresult, hf, (hlisted _ _ _ h hresult f hf).2, ⟨e, he, hcreated⟩,
      (henters _ _ h ⟨e, he, hcreated⟩).2⟩
  · have h : Makes (run oneItem oneItemSite default).run
        [⟨.load oneItemSite.slot, .ok (some { Progress.blank with program := ⟨none, some "?"⟩ })⟩]
        (some (.error (.partialRecord oneItemSite.slot))) := .call _ rfl (.done _)
    obtain ⟨loaded, ht, hloaded⟩ := hpartial _ _ h
    exact ⟨_, _, loaded, h, ht, hloaded⟩

end Deployment

end MintDrop
