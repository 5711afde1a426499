import MintDrop.Proofs.Deployment.History

/-!
# One record for each deployment

Once both parts of an identity are kept (`Settled`), no run submits a transaction that creates a record, and they
stay what they are (`settled_of_course`).  If what is kept is just one part, or no address, no run submits
anything (`silent_of_course`).  A run that creates a record saves the identity next, so that another record is
only created if that save failed (`creates_once_of_course`).
-/

namespace MintDrop.Deployment

open Script

/-- Whether an exchange submits a transaction that creates a record. -/
def TriesToCreate (e : Exchange) : Prop := ∃ tx, e.submitted? = some tx ∧ tx.createsRecord

/-- Whether an exchange confirms a transaction that creates a record. -/
def Creates (e : Exchange) : Prop := ∃ tx, e.confirmed? = some tx ∧ tx.createsRecord

/-- Whether progress has both parts of an identity. -/
def Settled (p : Progress) : Prop := p.program.tag.isSome ∧ p.program.address.isSome

section

variable {d : Deployment} {site : Site} {key : Keypair} {loaded : Option Progress} {p p' k : Progress}
  {id : Identity} {created : Bool} {count : UInt32} {t : List Exchange} {kept : Kept} {e : Exchange}

theorem triesToCreate_of_creates (h : Creates e) : TriesToCreate e := by
  obtain ⟨tx, htx, hcreates⟩ := h
  exact ⟨tx, Exchange.submitted?_of_confirmed? htx, hcreates⟩

theorem settled_of_program_eq (h : p.program = p'.program) (hp : Settled p) : Settled p' := by
  rw [Settled, ← h]
  exact hp

theorem settled_of_identity (h : p.identity = .ok (some id)) : Settled p := by
  obtain ⟨⟨tag, address⟩, items, env, cacheName⟩ := p
  cases tag <;> cases address
  · cases h
  · cases h
  · cases h
  · exact ⟨rfl, rfl⟩

theorem identity_ne_none_of_settled (h : Settled p) : p.identity ≠ .ok none := by
  obtain ⟨⟨tag, address⟩, items, env, cacheName⟩ := p
  obtain ⟨htag, haddress⟩ := h
  obtain ⟨tag, rfl⟩ := Option.isSome_iff_exists.1 htag
  obtain ⟨address, rfl⟩ := Option.isSome_iff_exists.1 haddress
  intro hid
  rw [Progress.identity] at hid
  cases ha : Address.parse address <;> simp [ha, Except.map] at hid

/-! ### Uploads -/

/-- A group's transaction creates no record. -/
theorem createsRecord_begin {uploadSite : Upload.Site} {g : Span} {tx : Transaction}
    (h : Upload.begin uploadSite p g = .ok tx) : tx.createsRecord = false := by
  obtain ⟨-, items, instruction, -, hinstruction, rfl⟩ := Upload.begin_eq_ok h
  rw [Transaction.createsRecord, List.any_cons, Record.isCreation_addLines hinstruction]
  rfl

theorem not_triesToCreate_of_uploading {r : Option (Except Error Report)}
    (hcovers : d.uploadsItems → Upload.Covers p d.itemCount.toUInt32) (h : Uploading d site id created p t r) :
    ∀ e ∈ t, ¬ TriesToCreate e := by
  cases h with
  | skipped => exact fun _ he => by cases he
  | uploaded hd hmakes =>
      obtain ⟨log, b, hcourse, -⟩ := Upload.makes_run (hcovers hd) hmakes
      rintro e he ⟨tx, htx, hcreates⟩
      obtain ⟨g, -, hbegin⟩ := hcourse.begin_of_submitted he htx
      rw [createsRecord_begin hbegin] at hcreates
      cases hcreates

/-- An upload creates no record and keeps the identity. -/
theorem settled_of_uploading {r : Option (Except Error Report)} (hslot : p.slot = site.slot)
    (hcovers : d.uploadsItems → Upload.Covers p d.itemCount.toUInt32) (hk : kept site.slot = some k)
    (hprogram : k.program = p.program) (h : Uploading d site id created p t r) :
    (∀ e ∈ t, ¬ TriesToCreate e) ∧ ∃ k', kept.after t site.slot = some k' ∧ k'.program = p.program := by
  refine ⟨not_triesToCreate_of_uploading hcovers h, ?_⟩
  cases h with
  | skipped => exact ⟨k, hk, hprogram⟩
  | uploaded hd hmakes =>
      have hitems := hcovers hd
      obtain ⟨log, b, hcourse, -⟩ := Upload.makes_run hitems hmakes
      rw [after_eq_lastSaved (hslot ▸ hcourse.savesTo)]
      cases hsaved : lastSaved? t with
      | none => exact ⟨k, hk, hprogram⟩
      | some q =>
          have hq := Upload.mem_offered_of_lastSaved hsaved
          exact ⟨q.stamp site.slot, rfl, ((List.pairwise_cons.1 (hcourse.chain hitems).1).1 q hq).program⟩

/-! ### Runs with an identity -/

/-- With an identity, or with what is none, a run makes no call before its upload. -/
theorem eq_nil_of_ensured {r : Option (Except Error (Identity × Bool × Progress))} (hid : p.identity ≠ .ok none)
    (h : Ensured d site count key p t r) :
    t = [] ∧ ∀ id created p', r = some (.ok (id, created, p')) →
      p.identity = .ok (some id) ∧ created = false ∧ p' = p := by
  cases h with
  | halted hfailed => exact ⟨rfl, fun _ _ _ hr => absurd hr (hfailed _)⟩
  | kept hid' =>
      refine ⟨rfl, fun _ _ _ hr => ?_⟩
      cases hr
      exact ⟨hid', rfl, rfl⟩
  | creating hid' => exact absurd hid' hid
  | uncreated hid' => exact absurd hid' hid
  | unsaved hid' => exact absurd hid' hid
  | created hid' => exact absurd hid' hid

/-- Once both parts of an identity are kept, a run creates no record, keeps them, and reports them. -/
theorem settled_of_course {r : Option (Except Error Report)} (h : Course d site key t r)
    (hhonest : kept.Honest t) (hk : kept site.slot = some k) (hsettled : Settled k) :
    (∀ e ∈ t, ¬ TriesToCreate e) ∧ (∃ k', kept.after t site.slot = some k' ∧ k'.program = k.program) ∧
      ∀ report, r = some (.ok report) → report.created = false ∧ k.identity = .ok (some report.identity) := by
  have hload : ∀ reply, ¬ TriesToCreate ⟨.load site.slot, reply⟩ := by
    rintro reply ⟨tx, htx, -⟩
    cases htx
  cases h with
  | unstarted hfailed =>
      exact ⟨fun _ he => (by cases he), ⟨k, hk, rfl⟩, fun _ hr => absurd hr (hfailed _)⟩
  | unloaded hfailed | unready hfailed =>
      refine ⟨fun e he => ?_, ⟨k, hk, rfl⟩, fun _ hr => absurd hr (hfailed _)⟩
      obtain rfl := List.mem_singleton.1 he
      exact hload _
  | unensured hready hensured hfailed =>
      have hprogram := (hready.behind (hhonest.1.trans hk)).program
      obtain ⟨rfl, -⟩ := eq_nil_of_ensured
        (identity_ne_none_of_settled (settled_of_program_eq hprogram hsettled)) hensured
      refine ⟨fun e he => ?_, ⟨k, hk, rfl⟩, fun _ hr => absurd hr (hfailed _)⟩
      obtain rfl := List.mem_singleton.1 he
      exact hload _
  | @uploading loaded p p' id created t u r hready hensured huploading =>
      have hprogram := (hready.behind (hhonest.1.trans hk)).program
      obtain ⟨rfl, hrest⟩ := eq_nil_of_ensured
        (identity_ne_none_of_settled (settled_of_program_eq hprogram hsettled)) hensured
      obtain ⟨hid, rfl, rfl⟩ := hrest _ _ _ rfl
      obtain ⟨hcreates, hkept⟩ := settled_of_uploading hready.slot hready.covers hk hprogram huploading
      refine ⟨fun e he => ?_, ?_, fun report hr => ?_⟩
      · rcases List.mem_cons.1 he with rfl | he
        · exact hload _
        · exact hcreates e he
      · rw [hprogram]
        exact hkept
      · subst hr
        obtain ⟨rfl, hcreated, -⟩ := huploading.cases_ok
        exact ⟨hcreated, (identity_eq_of_program_eq hprogram).trans hid⟩

/-- If what is kept is just one part of an identity, or no address, a run submits nothing and saves nothing. -/
theorem silent_of_course {r : Option (Except Error Report)} (h : Course d site key t r)
    (hhonest : kept.Honest t) (hk : kept site.slot = some k)
    (hbad : k.isPartial ∨ ∃ e, k.identity = .error e) :
    (∀ e ∈ t, e.submitted? = none) ∧ kept.after t = kept := by
  have hnot : ∀ {loaded p}, Readied d site loaded p → loaded = kept site.slot → p.identity ≠ .ok none ∧
      ∀ id, p.identity ≠ .ok (some id) := by
    intro loaded p hready hloaded
    have hprogram := (hready.behind (hloaded.trans hk)).program
    rcases hbad with hpartial | ⟨e, he⟩
    · rw [isPartial_eq_of_program_eq hprogram, hready.notPartial] at hpartial
      cases hpartial
    · rw [identity_eq_of_program_eq hprogram] at he
      rw [he]
      exact ⟨fun hid => (by cases hid), fun _ hid => by cases hid⟩
  have hload : ∀ reply, ∀ e ∈ [(⟨.load site.slot, reply⟩ : Exchange)], e.submitted? = none := by
    intro reply e he
    obtain rfl := List.mem_singleton.1 he
    rfl
  cases h with
  | unstarted => exact ⟨fun _ he => (by cases he), rfl⟩
  | unloaded | unready => exact ⟨hload _, rfl⟩
  | unensured hready hensured =>
      obtain ⟨rfl, -⟩ := eq_nil_of_ensured (hnot hready hhonest.1).1 hensured
      exact ⟨hload _, rfl⟩
  | uploading hready hensured =>
      obtain ⟨-, hrest⟩ := eq_nil_of_ensured (hnot hready hhonest.1).1 hensured
      exact absurd (hrest _ _ _ rfl).1 ((hnot hready hhonest.1).2 _)

/-- A run that ends with a report has kept the identity that it reports. -/
theorem identity_of_course {report : Report} (h : Course d site key t (some (.ok report)))
    (hhonest : kept.Honest t) :
    ∃ k, kept.after t site.slot = some k ∧ k.identity = .ok (some report.identity) := by
  obtain ⟨loaded, p, p', id, created, t₁, t₂, rfl, -, hready, hensured, huploading⟩ := h.cases_ok
  obtain ⟨hid, hslot, k, hk, hbehind⟩ := kept_of_ensured hready hhonest.1 hensured
  have hcovers : d.uploadsItems → Upload.Covers p' d.itemCount.toUInt32 :=
    fun hitems => covers_of_ensured (hready.covers hitems) hensured
  obtain ⟨-, k', hk', hprogram⟩ := settled_of_uploading hslot hcovers hk hbehind.program huploading
  refine ⟨k', ?_, ?_⟩
  · change kept.after (t₁ ++ t₂) site.slot = some k'
    rw [Kept.after_append]
    exact hk'
  · rw [identity_eq_of_program_eq hprogram, hid, huploading.cases_ok.1]

/-! ### Runs that create a record -/

theorem not_creates_of_creation {er : LedgerError} (h : Creation key t (some (.error er))) :
    ∀ e ∈ t, ¬ Creates e := by
  cases h with
  | unasked => exact fun _ he => by cases he
  | asked =>
      rintro e he ⟨tx, htx, -⟩
      obtain rfl := List.mem_singleton.1 he
      cases htx
  | refused =>
      rintro e he ⟨tx, htx, -⟩
      rcases List.mem_pair.1 he with rfl | rfl <;> cases htx
  | confirmed hr => rcases hr with hr | hr <;> cases hr

theorem creates_of_creation (h : Creation key t (some (.ok id))) :
    ∃ first last, t = [first, last] ∧ ¬ Creates first := by
  cases h with
  | unasked hfailed => exact absurd rfl (hfailed _)
  | asked hfailed => exact absurd rfl (hfailed _)
  | refused hfailed => exact absurd rfl (hfailed _)
  | confirmed =>
      refine ⟨_, _, rfl, ?_⟩
      rintro ⟨tx, htx, -⟩
      cases htx

/-- The calls of a run that has ended: at most one of them creates a record, and then a save follows that, if
it succeeds, keeps the identity. -/
inductive CreatesOnce (slot : Slot) (kept : Kept) : List Exchange → Prop
  | never {t : List Exchange} : (∀ e ∈ t, ¬ Creates e) → CreatesOnce slot kept t
  | once {before u : List Exchange} {x : Exchange} {q : Progress} {reply : Except StoreError Unit} :
      (∀ e ∈ before, ¬ Creates e) → (∀ e ∈ u, ¬ Creates e) →
      (reply = .ok () → ∃ k, kept.after (before ++ x :: ⟨.save slot q, reply⟩ :: u) slot = some k ∧ Settled k) →
      CreatesOnce slot kept (before ++ x :: ⟨.save slot q, reply⟩ :: u)

theorem creates_once_of_course {r : Option (Except Error Report)} (h : Course d site key t r)
    (hhonest : kept.Honest t) (hr : r ≠ none) : CreatesOnce site.slot kept t := by
  have hload : ∀ reply, ¬ Creates ⟨.load site.slot, reply⟩ := by
    rintro reply ⟨tx, htx, -⟩
    cases htx
  cases h with
  | unstarted => exact .never fun _ he => by cases he
  | unloaded | unready =>
      refine .never fun e he => ?_
      obtain rfl := List.mem_singleton.1 he
      exact hload _
  | unensured hready hensured _ hfailed hcut =>
      cases hensured with
      | halted =>
          refine .never fun e he => ?_
          obtain rfl := List.mem_singleton.1 he
          exact hload _
      | kept => exact absurd rfl (hfailed _)
      | creating => exact absurd (hcut rfl) hr
      | uncreated _ hcreation =>
          refine .never fun e he => ?_
          rcases List.mem_cons.1 he with rfl | he
          · exact hload _
          · exact not_creates_of_creation hcreation e he
      | unsaved _ hcreation =>
          obtain ⟨first, last, rfl, hfirst⟩ := creates_of_creation hcreation
          refine @CreatesOnce.once _ _ [_, first] [] last _ _ (fun e he => ?_) (fun _ he => by cases he)
            fun hreply => by cases hreply
          rcases List.mem_pair.1 he with rfl | rfl
          · exact hload _
          · exact hfirst
      | created _ _ _ hr' =>
          rcases hr' with rfl | rfl
          · exact absurd (hcut rfl) hr
          · exact absurd rfl (hfailed _)
  | @uploading loaded p p' id created t u _ hready hensured huploading =>
      obtain ⟨hid, hslot, k, hk, hbehind⟩ := kept_of_ensured hready hhonest.1 hensured
      have hcovers : d.uploadsItems → Upload.Covers p' d.itemCount.toUInt32 :=
        fun hitems => covers_of_ensured (hready.covers hitems) hensured
      obtain ⟨htries, k', hk', hprogram⟩ := settled_of_uploading hslot hcovers hk hbehind.program huploading
      have hu : ∀ e ∈ u, ¬ Creates e := fun e he hcreates => htries e he (triesToCreate_of_creates hcreates)
      have hsettled : Settled k' := settled_of_program_eq hprogram.symm (settled_of_identity hid)
      rcases hensured.cases_ok with ⟨rfl, -⟩ | ⟨t₁, rfl, -, hcreation, -⟩
      · refine .never fun e he => ?_
        rcases List.mem_cons.1 he with rfl | he
        · exact hload _
        · exact hu e he
      · obtain ⟨first, last, rfl, hfirst⟩ := creates_of_creation hcreation
        refine @CreatesOnce.once _ _ [_, first] u last _ _ (fun e he => ?_) hu fun _ => ⟨k', ?_, hsettled⟩
        · rcases List.mem_pair.1 he with rfl | rfl
          · exact hload _
          · exact hfirst
        · rw [Kept.after_append] at hk'
          exact hk'

end

/-! ### Histories -/

section

variable {slot : Slot} {Q : Deployment → Option (Except Error Report) → Prop} {kept : Kept}
  {past : List Exchange} {k : Progress}

theorem settled_of_history (h : History slot Q kept past) (hk : kept slot = some k) (hsettled : Settled k) :
    (∀ e ∈ past, ¬ TriesToCreate e) ∧ ∃ k', kept.after past slot = some k' ∧ k'.program = k.program := by
  induction h with
  | none => exact ⟨fun _ he => (by cases he), k, hk, rfl⟩
  | run _ hslot _ hmakes hhonest ih =>
      subst hslot
      obtain ⟨hpast, k₁, hk₁, hprogram⟩ := ih
      obtain ⟨ht, ⟨k₂, hk₂, hprogram'⟩, -⟩ := settled_of_course (makes_run hmakes) hhonest hk₁
        (settled_of_program_eq hprogram.symm hsettled)
      refine ⟨fun e he => ?_, k₂, ?_, hprogram'.trans hprogram⟩
      · exact (List.mem_append.1 he).elim (hpast e) (ht e)
      · rw [Kept.after_append]
        exact hk₂

theorem silent_of_history (h : History slot Q kept past) (hk : kept slot = some k)
    (hbad : k.isPartial ∨ ∃ e, k.identity = .error e) :
    (∀ e ∈ past, e.submitted? = none) ∧ kept.after past = kept := by
  induction h with
  | none => exact ⟨fun _ he => (by cases he), rfl⟩
  | run _ hslot _ hmakes hhonest ih =>
      subst hslot
      obtain ⟨hpast, hkept⟩ := ih
      rw [hkept] at hhonest
      obtain ⟨ht, hkept'⟩ := silent_of_course (makes_run hmakes) hhonest hk hbad
      refine ⟨fun e he => (List.mem_append.1 he).elim (hpast e) (ht e), ?_⟩
      rw [Kept.after_append, hkept, hkept']

/-- Whether a creation in a trace is followed by a failed save, or else by no other creation and with the
identity kept in the end. -/
def Guarded (slot : Slot) (kept : Kept) (t : List Exchange) : Prop :=
  ∀ a b x, t = a ++ x :: b → Creates x →
    (∃ q e b', b = ⟨.save slot q, .error e⟩ :: b') ∨
      ((∀ y ∈ b, ¬ Creates y) ∧ ∃ k, kept.after t slot = some k ∧ Settled k)

theorem CreatesOnce.guarded {t : List Exchange} (h : CreatesOnce slot kept t) : Guarded slot kept t := by
  intro a b x ht hx
  cases h with
  | never hnever =>
      refine absurd hx (hnever x ?_)
      rw [ht]
      exact List.mem_append_right a List.mem_cons_self
  | @once before u x' q reply hbefore hu hsettled =>
      have hsave : ¬ Creates ⟨.save slot q, reply⟩ := by
        rintro ⟨tx, htx, -⟩
        cases htx
      -- The creation is the one before the save, as there is no other.
      have hb : b = ⟨.save slot q, reply⟩ :: u := by
        rcases List.append_eq_append_iff.1 ht with ⟨c, rfl, hc⟩ | ⟨c, rfl, hc⟩
        · cases c with
          | nil => exact (List.cons.inj hc).2.symm
          | cons y c =>
              obtain ⟨rfl, htail⟩ := List.cons.inj hc
              have hx' : x ∈ (⟨.save slot q, reply⟩ : Exchange) :: u := by
                rw [htail]
                exact List.mem_append_right c List.mem_cons_self
              rcases List.mem_cons.1 hx' with rfl | hx'
              · exact absurd hx hsave
              · exact absurd hx (hu x hx')
        · cases c with
          | nil => exact (List.cons.inj hc).2
          | cons y c =>
              obtain ⟨rfl, -⟩ := List.cons.inj hc
              exact absurd hx (hbefore _ (List.mem_append_right a List.mem_cons_self))
      subst hb
      cases reply with
      | error e => exact Or.inl ⟨q, e, u, rfl⟩
      | ok _ =>
          refine Or.inr ⟨fun y hy => ?_, hsettled rfl⟩
          rcases List.mem_cons.1 hy with rfl | hy
          · exact hsave
          · exact hu y hy

theorem guarded_of_history (hQ : ∀ d r, Q d r → r ≠ none) (h : History slot Q kept past) :
    Guarded slot kept past := by
  induction h with
  | none =>
      intro a b x ht
      cases a <;> cases ht
  | @run past t d site key r _ hslot hr hmakes hhonest ih =>
      subst hslot
      have hcourse := makes_run hmakes
      have hguarded := (creates_once_of_course hcourse hhonest (hQ _ _ hr)).guarded
      intro a b x ht hx
      rcases List.append_eq_append_iff.1 ht with ⟨c, rfl, hc⟩ | ⟨c, rfl, hc⟩
      · rw [Kept.after_append]
        exact hguarded c b x hc hx
      · cases c with
        | nil =>
            rw [List.append_nil, Kept.after_append]
            rw [List.append_nil] at hguarded
            exact hguarded [] b x hc.symm hx
        | cons y c =>
            obtain ⟨rfl, rfl⟩ := List.cons.inj hc
            rcases ih a c x rfl hx with ⟨q, e, b', rfl⟩ | ⟨hc, k, hk, hsettled⟩
            · exact Or.inl ⟨q, e, b' ++ t, rfl⟩
            · obtain ⟨htries, ⟨k', hk', hprogram⟩, -⟩ := settled_of_course hcourse hhonest hk hsettled
              refine Or.inr ⟨fun y hy => ?_, k', ?_, settled_of_program_eq hprogram.symm hsettled⟩
              · rcases List.mem_append.1 hy with hy | hy
                · exact hc y hy
                · exact fun hcreates => htries y hy (triesToCreate_of_creates hcreates)
              · rw [Kept.after_append]
                exact hk'

end

/-- At most one record is created for a deployment, whatever the store kept before its runs.  Once both parts of an
identity are kept, no run submits a creation, they stay, and a run that ends with a report reports them.  If just
one part is kept, or no address, no run submits anything.  If all runs come to their end, another creation is
only confirmed after one if the save that follows that one failed.  A run that ends with a report has kept what it
reports. -/
theorem record_unique {slot : Slot} {Q : Deployment → Option (Except Error Report) → Prop} {kept : Kept}
    {past : List Exchange} (h : History slot Q kept past) :
    (∀ k, kept slot = some k → Settled k →
      (∀ e ∈ past, ¬ TriesToCreate e) ∧ (∃ k', kept.after past slot = some k' ∧ k'.program = k.program) ∧
        ∀ d site key t report, site.slot = slot → Makes (Deployment.run d site key).run t (some (.ok report)) →
          (kept.after past).Honest t → report.created = false ∧ k.identity = .ok (some report.identity)) ∧
    (∀ k, kept slot = some k → (k.isPartial ∨ ∃ e, k.identity = .error e) → ∀ e ∈ past, e.submitted? = none) ∧
    ((∀ d r, Q d r → r ≠ none) →
      ∀ a b c x y, past = a ++ x :: (b ++ y :: c) → Creates x → Creates y →
        ∃ q e b', b = ⟨.save slot q, .error e⟩ :: b') ∧
    ∀ d site key t report, site.slot = slot → Makes (Deployment.run d site key).run t (some (.ok report)) →
      (kept.after past).Honest t →
      ∃ k, kept.after (past ++ t) slot = some k ∧ k.identity = .ok (some report.identity) := by
  refine ⟨fun k hk hsettled => ?_, fun k hk hbad => (silent_of_history h hk hbad).1, ?_, ?_⟩
  · obtain ⟨htries, k', hk', hprogram⟩ := settled_of_history h hk hsettled
    refine ⟨htries, ⟨k', hk', hprogram⟩, fun d site key t report hslot hmakes hhonest => ?_⟩
    subst hslot
    have hcourse := settled_of_course (makes_run hmakes) hhonest hk' (settled_of_program_eq hprogram.symm hsettled)
    rw [← identity_eq_of_program_eq hprogram]
    exact hcourse.2.2 report rfl
  · intro hQ a b c x y hpast hx hy
    rcases guarded_of_history hQ h a (b ++ y :: c) x hpast hx with ⟨q, e, b', hb⟩ | ⟨hnever, -⟩
    · cases b with
      | nil =>
          obtain ⟨rfl, -⟩ := List.cons.inj hb
          obtain ⟨tx, htx, -⟩ := hy
          cases htx
      | cons z b =>
          obtain ⟨rfl, -⟩ := List.cons.inj hb
          exact ⟨q, e, b, rfl⟩
    · exact absurd hy (hnever y (List.mem_append_right b List.mem_cons_self))
  · intro d site key t report hslot hmakes hhonest
    subst hslot
    rw [Kept.after_append]
    exact identity_of_course (makes_run hmakes) hhonest

theorem record_unique_oneItem :
    ∃ t u first second k, Makes (run oneItem oneItemSite default).run t (some (.ok first)) ∧
      Makes (run oneItem oneItemSite default).run u (some (.ok second)) ∧
      Kept.empty.after t oneItemSite.slot = some k ∧ k.identity = .ok (some first.identity) ∧
      first.created = true ∧ second.created = false ∧ second.identity = first.identity := by
  obtain ⟨t, first, ht, hcreated, hmakes, hhonest⟩ :=
    @exists_makes_oneItemRun .empty (·.created) (by decide +kernel)
  obtain ⟨u, second, -, -, hmakes', hhonest'⟩ :=
    @exists_makes_oneItemRun (Kept.empty.after t) (fun _ => true) (by rw [ht]; decide +kernel)
  have hhistory : ∀ kept, History oneItemSite.slot (fun _ r => r ≠ none) kept [] := fun _ => .none
  obtain ⟨k, hk, hid⟩ := (record_unique (hhistory .empty)).2.2.2 _ _ _ _ first rfl hmakes hhonest
  obtain ⟨hagain, hid'⟩ := ((record_unique (hhistory (Kept.empty.after t))).1 k hk (settled_of_identity hid)).2.2
    _ _ _ _ second rfl hmakes' hhonest'
  have hsame : Except.ok (some first.identity) = Except.ok (some second.identity) := hid.symm.trans hid'
  exact ⟨t, u, first, second, k, hmakes, hmakes', hk, hid, hcreated, hagain,
    (Option.some.inj (Except.ok.inj hsame)).symm⟩

end MintDrop.Deployment
