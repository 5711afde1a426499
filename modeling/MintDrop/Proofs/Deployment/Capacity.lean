import MintDrop.Proofs.Deployment.Allocation
import MintDrop.Proofs.Deployment.Rerun

/-!
# The room of a record

A run writes the items of its own drop to the record that is kept, whatever drop that was created for
(`writesOwn_of_course`, `writes_of_success`).  `Runs` lists runs of drops under one name, one after another.  Their
lines are within the records that they are written to (`LinesFit`) if no drop has more items to upload than an earlier
one (`lines_fit_of_within`), and a run that succeeds with an item that is new to its record writes outside it
(`not_linesFit_of_success`).
-/

namespace MintDrop

/-- Whether a record that was given some space has a line at an index: its terms are of items that are uploaded and
of more than come before, and the line ends within that space. -/
def Record.HasLine (r : Record) (space : ℕ) (i : UInt32) : Prop :=
  r.terms.skipsUpload = false ∧ i.toNat < r.terms.itemsAvailable.toNat ∧ Terms.lineStart (i.toNat + 1) ≤ space

namespace Deployment

open Script

/-- Whether a transaction among some creates a record. -/
def Created (txs : List Transaction) (record : Address) : Prop :=
  ∃ c ∈ txs, ∃ space r, Record.Creates c record space r

/-- Whether the record that progress has the identity of is among those that were created. -/
def Recorded (txs : List Transaction) (p : Progress) : Prop :=
  ∀ id, p.identity = .ok (some id) → Created txs id.address

/-- Whether what a trace submits to create a record creates the one of a key. -/
def CreatesAt (key : Keypair) (t : List Exchange) : Prop :=
  ∀ e ∈ t, ∀ tx, e.submitted? = some tx → tx.createsRecord → ∃ space r, Record.Creates tx key.address space r

section

variable {d : Deployment} {site : Site} {key : Keypair} {loaded : Option Progress} {p p' k : Progress}
  {id : Identity} {created : Bool} {count : UInt32} {t u : List Exchange} {kept : Kept}
  {txs txs' : List Transaction} {record : Address}

theorem Created.mono (h : Created txs record) (htxs : txs ⊆ txs') : Created txs' record := by
  obtain ⟨c, hc, hcreates⟩ := h
  exact ⟨c, htxs hc, hcreates⟩

theorem Recorded.mono (h : Recorded txs p) (htxs : txs ⊆ txs') : Recorded txs' p :=
  fun id hid => (h id hid).mono htxs

theorem recorded_of_program_eq (h : p.program = p'.program) (hp : Recorded txs p) : Recorded txs p' := by
  intro id hid
  rw [← identity_eq_of_program_eq h] at hid
  exact hp id hid

theorem CreatesAt.append_left (h : CreatesAt key (t ++ u)) : CreatesAt key t :=
  fun e he => h e (List.mem_append_left u he)

theorem CreatesAt.tail {e : Exchange} (h : CreatesAt key (e :: t)) : CreatesAt key t :=
  fun e' he' => h e' (List.mem_cons_of_mem e he')

theorem address_identityOf (key : Keypair) : (identityOf key).address = key.address := rfl

/-! ### The record of a run -/

theorem Creation.createsRecord {r : Option (Except LedgerError Identity)} (h : Creation key t r) :
    ∀ e ∈ t, ∀ tx, e.submitted? = some tx → tx.createsRecord := by
  cases h with
  | unasked => exact fun _ he => by cases he
  | asked =>
      intro e he tx htx
      obtain rfl := List.mem_singleton.1 he
      cases htx
  | refused _ hcreates | confirmed _ hcreates =>
      intro e he tx htx
      rcases List.mem_pair.1 he with rfl | rfl
      · cases htx
      · obtain rfl := Option.some.inj htx
        exact hcreates

/-- Before its upload, a run submits nothing but the creation of its record. -/
theorem createsRecord_of_ensured {r : Option (Except Error (Identity × Bool × Progress))}
    (h : Ensured d site count key p t r) : ∀ e ∈ t, ∀ tx, e.submitted? = some tx → tx.createsRecord := by
  cases h with
  | halted | kept => exact fun _ he => by cases he
  | creating _ hcreation | uncreated _ hcreation => exact hcreation.createsRecord
  | unsaved _ hcreation | created _ hcreation =>
      intro e he tx htx
      rcases List.mem_append.1 he with he | he
      · exact hcreation.createsRecord e he tx htx
      · obtain rfl := List.mem_singleton.1 he
        cases htx

/-- A record that is created is the one of the key. -/
theorem Creation.created_of_ok (h : Creation key t (some (.ok id))) (hcreates : CreatesAt key t) :
    Created (t.filterMap Exchange.confirmed?) key.address := by
  cases h with
  | unasked hfailed | asked hfailed | refused hfailed => exact absurd rfl (hfailed _)
  | confirmed _ htx =>
      exact ⟨_, List.mem_singleton_self _, hcreates _ (List.mem_cons_of_mem _ List.mem_cons_self) _ rfl htx⟩

/-- Up to the upload, what is kept has the identity of a record that was created. -/
theorem recorded_of_ensured {r : Option (Except Error (Identity × Bool × Progress))}
    (hrecorded : ∀ k, kept site.slot = some k → Recorded txs k) (hcreates : CreatesAt key t)
    (h : Ensured d site count key p t r) :
    ∀ k, kept.after t site.slot = some k → Recorded (txs ++ t.filterMap Exchange.confirmed?) k := by
  -- Nothing but a save after the creation changes what is kept.
  have hsame : kept.after t site.slot = kept site.slot →
      ∀ k, kept.after t site.slot = some k → Recorded (txs ++ t.filterMap Exchange.confirmed?) k := by
    intro hsame k hk
    exact (hrecorded k (hsame.symm.trans hk)).mono (List.subset_append_left _ _)
  cases h with
  | halted | kept => exact hsame rfl
  | creating _ hcreation | uncreated _ hcreation => exact hsame (hcreation.after_eq _)
  | unsaved _ hcreation =>
      refine hsame ?_
      rw [Kept.after_append]
      exact hcreation.after_eq _
  | @created t₁ p' _ _ hcreation hafter =>
      intro k hk id hid
      rw [Kept.after_append, Kept.after_cons, Kept.after_nil] at hk
      obtain rfl : p'.stamp site.slot = k := Option.some.inj ((kept_save ..).symm.trans hk)
      obtain rfl : identityOf key = id :=
        Option.some.inj (Except.ok.inj ((identity_afterCreation hafter).symm.trans hid))
      rw [address_identityOf, List.filterMap_append]
      exact (hcreation.created_of_ok hcreates.append_left).mono fun c hc =>
        List.mem_append_right _ (List.mem_append_left _ hc)

/-- What is kept after a run has the identity of a record that was created. -/
theorem recorded_of_course {r : Option (Except Error Report)} (h : Course d site key t r) (hhonest : kept.Honest t)
    (hrecorded : ∀ k, kept site.slot = some k → Recorded txs k) (hcreates : CreatesAt key t) :
    ∀ k, kept.after t site.slot = some k → Recorded (txs ++ t.filterMap Exchange.confirmed?) k := by
  cases h with
  | unstarted | unloaded | unready => exact fun k hk => (hrecorded k hk).mono (List.subset_append_left _ _)
  | unensured _ hensured =>
      have hkept := recorded_of_ensured hrecorded hcreates.tail hensured
      exact hkept
  | @uploading loaded p p' id created t u _ hready hensured huploading =>
      obtain ⟨-, hslot, k₁, hk₁, hbehind⟩ := kept_of_ensured hready hhonest.1 hensured
      have hcovers : d.uploadsItems → Upload.Covers p' d.itemCount.toUInt32 :=
        fun hd => covers_of_ensured (hready.covers hd) hensured
      obtain ⟨-, k₂, hk₂, hprogram⟩ := settled_of_uploading hslot hcovers hk₁ hbehind.program huploading
      intro k hk
      change kept.after (t ++ u) site.slot = some k at hk
      rw [Kept.after_append, hk₂] at hk
      obtain rfl := Option.some.inj hk
      have hk₁' := recorded_of_ensured hrecorded hcreates.tail.append_left hensured k₁ hk₁
      refine (recorded_of_program_eq (hbehind.program.trans hprogram.symm) hk₁').mono ?_
      change txs ++ t.filterMap Exchange.confirmed? ⊆ txs ++ (t ++ u).filterMap Exchange.confirmed?
      rw [List.filterMap_append, ← List.append_assoc]
      exact List.subset_append_left _ _

/-! ### The lines of a run -/

/-- Whether a transaction writes no items but those of a drop that uploads them, and only to a record that was
created before. -/
def WritesOwn (d : Deployment) (txs : List Transaction) (tx : Transaction) : Prop :=
  ∀ record i line, Record.Writes tx record i line →
    d.uploadsItems ∧ i.toNat < d.itemCount.toNat ∧ Created txs record

theorem writesOwn_of_uploading {r : Option (Except Error Report)} (hsize : d.itemCount.toNat < UInt32.size)
    (hid : Created txs id.address) (h : Uploading d site id created p t r) : EachSubmitted (WritesOwn d) txs t := by
  cases h with
  | skipped => trivial
  | uploaded hd hmakes =>
      refine eachSubmitted_of_forall fun e he tx htx txs' htxs => ?_
      refine Upload.submitsOnly_run (P := WritesOwn d txs') (fun g hg tx hbegin record i line hwrites => ?_)
        _ _ hmakes e he tx htx
      obtain ⟨⟨rfl, hi⟩, -⟩ := (Upload.writes_begin_iff hbegin).1 hwrites
      have hstop := ((tiles_groups _ _).bounds hg).2.2
      have hlt := UInt32.lt_iff_toNat_lt.1 (UInt32.lt_of_lt_of_le hi.2 hstop)
      rw [toNat_toUInt32_of_lt hsize] at hlt
      exact ⟨hd, hlt, hid.mono htxs⟩

theorem writesOwn_of_ensured {r : Option (Except Error (Identity × Bool × Progress))} (hcreates : CreatesAt key t)
    (h : Ensured d site count key p t r) : EachSubmitted (WritesOwn d) txs t := by
  refine eachSubmitted_of_forall fun e he tx htx txs' _ record i line hwrites => ?_
  obtain ⟨space, r, hcreate⟩ := hcreates e he tx htx (createsRecord_of_ensured h e he tx htx)
  exact absurd hwrites hcreate.not_writes

theorem writesOwn_of_course {r : Option (Except Error Report)} (h : Course d site key t r) (hhonest : kept.Honest t)
    (hrecorded : ∀ k, kept site.slot = some k → Recorded txs k) (hcreates : CreatesAt key t) :
    EachSubmitted (WritesOwn d) txs t := by
  cases h with
  | unstarted => trivial
  | unloaded | unready => exact EachSubmitted.load trivial
  | unensured _ hensured => exact (writesOwn_of_ensured hcreates.tail hensured).load
  | uploading hready hensured huploading hsize =>
      obtain ⟨hid, -, k, hk, hbehind⟩ := kept_of_ensured hready hhonest.1 hensured
      have hcreates' := hcreates.tail.append_left
      have hcreated := recorded_of_ensured hrecorded hcreates' hensured k hk _
        ((identity_eq_of_program_eq hbehind.program).trans hid)
      refine EachSubmitted.load (eachSubmitted_append.2 ⟨writesOwn_of_ensured hcreates' hensured, ?_⟩)
      exact writesOwn_of_uploading hsize hcreated huploading

/-- A run that succeeds has written each item that was not marked to the record that was kept. -/
theorem writes_of_success {report : Report} {i : UInt32} (h : Makes (run d site key).run t (some (.ok report)))
    (hhonest : kept.Honest t) (hsuccess : report.success) (hk : kept site.slot = some k)
    (hid : k.identity = .ok (some id)) (hd : d.uploadsItems) (hi : i.toNat < d.itemCount.toNat)
    (hnew : k.items.isOnChain i = false) :
    ∃ e ∈ t, ∃ tx line, e.submitted? = some tx ∧ Record.Writes tx id.address i line := by
  obtain ⟨-, k', hk', hcomplete⟩ := complete_of_course (makes_run h) hhonest hsuccess
  have hmarked : k'.items.isOnChain i := by
    refine hcomplete.marked hd i (UInt32.lt_iff_toNat_lt.2 ?_)
    rwa [toNat_toUInt32_of_lt hcomplete.size]
  obtain ⟨loaded, p, p', id', created, t₁, t₂, rfl, -, hready, hensured, huploading⟩ := (makes_run h).cases_ok
  obtain rfl : loaded = some k := hhonest.1.trans hk
  have hbehind := hready.behind rfl
  obtain ⟨rfl, hsame⟩ := hensured.eq_kept ((identity_eq_of_program_eq hbehind.program).symm.trans hid)
  cases hsame
  cases huploading with
  | skipped hskips => exact absurd hd (Bool.eq_false_iff.1 hskips)
  | uploaded _ hmakes =>
      obtain ⟨log, b, hcourse, -⟩ := Upload.makes_run (hready.covers hd) hmakes
      -- What is kept in the end was saved by the upload, as what was kept before lacks the mark.
      have hsaves : SavesTo site.slot t₂ := hready.slot ▸ hcourse.savesTo
      change kept.after t₂ site.slot = some k' at hk'
      rw [after_eq_lastSaved hsaves, hk] at hk'
      cases hsaved : lastSaved? t₂ with
      | none =>
          rw [hsaved] at hk'
          obtain rfl := Option.some.inj hk'
          exact absurd hmarked (Bool.eq_false_iff.1 hnew)
      | some q =>
          rw [hsaved] at hk'
          obtain rfl := Option.some.inj hk'
          rcases hcourse.isOnChain (hready.covers hd) (Upload.mem_offered_of_lastSaved hsaved) hmarked with
            hbefore | ⟨tx, htx, line, -, hwrites⟩
          · rw [hready.isOnChain] at hbefore
            exact absurd hbefore (Bool.eq_false_iff.1 hnew)
          · obtain ⟨e, he, hconfirmed⟩ := List.mem_filterMap.1 htx
            exact ⟨e, List.mem_cons_of_mem _ he, tx, line, Exchange.submitted?_of_confirmed? hconfirmed, hwrites⟩

end

/-! ### Runs one after another -/

/-- The calls of runs of some drops under one name, one after another, over a store that kept nothing before. -/
inductive Runs (slot : Slot) : List Deployment → List Exchange → Prop
  | none : Runs slot [] []
  | run {ds : List Deployment} {d : Deployment} {past t : List Exchange} {site : Site} {key : Keypair}
      {r : Option (Except Error Report)} : Runs slot ds past → site.slot = slot →
      Makes (Deployment.run d site key).run t r → (Kept.empty.after past).Honest t → Runs slot (ds ++ [d]) (past ++ t)

/-- Whether a drop that uploads its items has no more of them than another, which uploads its items too. -/
def Within (d d₀ : Deployment) : Prop := d.uploadsItems → d₀.uploadsItems ∧ d.itemCount.toNat ≤ d₀.itemCount.toNat

/-- Whether a record has the terms of a drop, and the space that they ask for. -/
def Describes (d : Deployment) (space : ℕ) (r : Record) : Prop :=
  r.terms = d.taggedTerms r.terms.tag ∧ space = r.terms.accountSize

/-- Whether a transaction writes lines only where their record, each time that it was created, was given a line. -/
def WritesWithin (txs : List Transaction) (tx : Transaction) : Prop :=
  ∀ record i line, Record.Writes tx record i line → Created txs record ∧
    ∀ c ∈ txs, ∀ space r, Record.Creates c record space r → r.HasLine space i

/-- Whether all lines that are submitted are within their records. -/
def LinesFit (past : List Exchange) : Prop := EachSubmitted WritesWithin [] past

/-- Whether a transaction writes lines only for items of one of some drops, and to records that were created before,
for that drop or an earlier one.  Such a record has a line just if the drop that it was created for uploads the item. -/
def WritesListed (ds : List Deployment) (txs : List Transaction) (tx : Transaction) : Prop :=
  ∀ record i line, Record.Writes tx record i line → Created txs record ∧
    ∃ earlier d, earlier ++ [d] <+: ds ∧ d.uploadsItems ∧ i.toNat < d.itemCount.toNat ∧
      ∀ c ∈ txs, ∀ space r, Record.Creates c record space r → ∃ d₀ ∈ earlier ++ [d], d₀.Describes space r ∧
        (r.HasLine space i ↔ d₀.uploadsItems ∧ i.toNat < d₀.itemCount.toNat)

section

variable {d : Deployment} {ds : List Deployment} {site : Site} {key : Keypair} {slot : Slot}
  {past t : List Exchange} {i : UInt32} {txs : List Transaction} {space : ℕ} {r : Record}

theorem describes_of_terms_eq {tag : String} (h : r.terms = d.taggedTerms tag) :
    d.Describes d.terms.accountSize r := by
  rw [Describes, h]
  exact ⟨rfl, (accountSize_taggedTerms d tag).symm⟩

theorem Describes.skipsUpload (h : d.Describes space r) : r.terms.skipsUpload = !d.uploadsItems := by
  rw [h.1, uploadsItems, Bool.not_not]
  rfl

theorem Describes.itemsAvailable (h : d.Describes space r) : r.terms.itemsAvailable = d.itemCount := by
  rw [h.1]
  rfl

/-- A record has the lines of the drop for which it was created, if that uploads its items, and no others. -/
theorem Describes.hasLine_iff (h : d.Describes space r) :
    r.HasLine space i ↔ d.uploadsItems ∧ i.toNat < d.itemCount.toNat := by
  rw [Record.HasLine, h.skipsUpload, h.itemsAvailable, Bool.not_eq_false']
  constructor
  · rintro ⟨hd, hi, -⟩
    exact ⟨hd, hi⟩
  · rintro ⟨hd, hi⟩
    refine ⟨hd, hi, ?_⟩
    rw [h.2]
    refine Terms.lineStart_succ_le_accountSize ?_ ?_
    · rw [h.skipsUpload, hd, Bool.not_true]
    · rwa [h.itemsAvailable]

theorem createsAt_of_makes {r : Option (Except Error Report)} (h : Makes (run d site key).run t r) :
    CreatesAt key t :=
  fun e he tx htx hcreates => ⟨_, _, creates_of_submitted d site key t r h e he tx htx hcreates⟩

/-- The drops that were run describe all records that were created. -/
theorem Runs.describes (h : Runs slot ds past) :
    ∀ c ∈ past.filterMap Exchange.confirmed?, ∀ record space r, Record.Creates c record space r →
      ∃ d ∈ ds, d.Describes space r := by
  induction h with
  | none => exact fun _ hc => by cases hc
  | @run ds d past t site key _ _ _ hmakes _ ih =>
      intro c hc record space r hcreates
      rw [List.filterMap_append] at hc
      rcases List.mem_append.1 hc with hc | hc
      · obtain ⟨d₀, hd₀, hr⟩ := ih c hc record space r hcreates
        exact ⟨d₀, List.mem_append_left _ hd₀, hr⟩
      · obtain ⟨e, he, hconfirmed⟩ := List.mem_filterMap.1 hc
        have hown := creates_of_submitted d site key _ _ hmakes e he c (Exchange.submitted?_of_confirmed? hconfirmed)
          hcreates.createsRecord
        obtain ⟨-, rfl, rfl⟩ := hown.unique hcreates
        exact ⟨d, List.mem_append_right _ (List.mem_singleton_self d), describes_of_terms_eq rfl⟩

theorem Runs.recorded (h : Runs slot ds past) :
    ∀ k, Kept.empty.after past slot = some k → Recorded (past.filterMap Exchange.confirmed?) k := by
  induction h with
  | none => exact fun _ hk => by cases hk
  | run _ hslot hmakes hhonest ih =>
      subst hslot
      rw [Kept.after_append, List.filterMap_append]
      exact recorded_of_course (makes_run hmakes) hhonest ih (createsAt_of_makes hmakes)

theorem Runs.writesListed (h : Runs slot ds past) : EachSubmitted (WritesListed ds) [] past := by
  induction h with
  | none => trivial
  | @run ds d past t site key r hpast hslot hmakes hhonest ih =>
      subst hslot
      have hdescribes := (Runs.run hpast rfl hmakes hhonest).describes
      rw [List.filterMap_append] at hdescribes
      have hown := writesOwn_of_course (makes_run hmakes) hhonest hpast.recorded (createsAt_of_makes hmakes)
      refine eachSubmitted_append.2 ⟨ih.imp fun txs tx _ hlisted record i line hwrites => ?_,
        hown.imp fun txs tx htxs hwritten record i line hwrites => ?_⟩
      · obtain ⟨hcreated, earlier, d', hprefix, hrest⟩ := hlisted record i line hwrites
        exact ⟨hcreated, earlier, d', hprefix.trans (List.prefix_append ds [d]), hrest⟩
      · obtain ⟨hd, hi, hcreated⟩ := hwritten record i line hwrites
        refine ⟨hcreated, ds, d, List.prefix_rfl, hd, hi, fun c hc space r₀ hcreates => ?_⟩
        obtain ⟨d₀, hd₀, hr₀⟩ := hdescribes c (htxs hc) record space r₀ hcreates
        exact ⟨d₀, hd₀, hr₀, hr₀.hasLine_iff⟩

/-- Where no drop has more items to upload than an earlier one, the lines are within their records. -/
theorem WritesListed.within {tx : Transaction} (hds : ds.Pairwise fun d₀ d => d.Within d₀)
    (h : WritesListed ds txs tx) : WritesWithin txs tx := by
  intro record i line hwrites
  obtain ⟨hcreated, earlier, d, hprefix, hd, hi, hrecord⟩ := h record i line hwrites
  refine ⟨hcreated, fun c hc space r hcreates => ?_⟩
  obtain ⟨d₀, hd₀, -, hiff⟩ := hrecord c hc space r hcreates
  refine hiff.2 ?_
  rcases List.mem_append.1 hd₀ with hearlier | hsame
  · have hpairs := List.pairwise_append.1 (hds.sublist hprefix.sublist)
    obtain ⟨huploads, hcount⟩ := hpairs.2.2 d₀ hearlier d (List.mem_singleton_self d) hd
    exact ⟨huploads, Nat.lt_of_lt_of_le hi hcount⟩
  · obtain rfl := List.mem_singleton.1 hsame
    exact ⟨hd, hi⟩

/-- A run that succeeds with an item that the kept record has no line for has written it all the same. -/
theorem not_linesFit_of_success {report : Report} {k : Progress} {id : Identity} {c : Transaction}
    (h : Makes (run d site key).run t (some (.ok report))) (hhonest : (Kept.empty.after past).Honest t)
    (hsuccess : report.success) (hk : Kept.empty.after past site.slot = some k) (hid : k.identity = .ok (some id))
    (hd : d.uploadsItems) (hi : i.toNat < d.itemCount.toNat) (hnew : k.items.isOnChain i = false)
    (hc : c ∈ past.filterMap Exchange.confirmed?) (hcreates : Record.Creates c id.address space r)
    (hout : ¬ r.HasLine space i) : ¬ LinesFit (past ++ t) := by
  intro hfit
  obtain ⟨e, he, tx, line, htx, hwrites⟩ := writes_of_success h hhonest hsuccess hk hid hd hi hnew
  obtain ⟨txs, hpast, hwithin⟩ := (eachSubmitted_append.1 hfit).2.exists_of_mem he htx
  exact hout ((hwithin _ i line hwrites).2 c (hpast hc) space r hcreates)

end

/-- Whatever drops have been run under one name with nothing kept before, and wherever the runs were cut off: each line
that is submitted is for an item of one of them, which uploads its items, and for a record that was created before, for
that drop or an earlier one; the record has the line just if the drop that it was created for uploads its items and has
that one.  So all lines are within their records if a drop that uploads its items has no more of them than any earlier
one, and those upload theirs. -/
theorem lines_fit_of_within {slot : Slot} {ds : List Deployment} {past : List Exchange} (h : Runs slot ds past) :
    EachSubmitted (WritesListed ds) [] past ∧ (ds.Pairwise (fun d₀ d => d.Within d₀) → LinesFit past) :=
  ⟨h.writesListed, fun hds => h.writesListed.imp fun _ _ _ hlisted => hlisted.within hds⟩

/-- A drop of two items, which are uploaded. -/
def twoItems : Deployment :=
  { oneItem with
    terms := { oneItem.terms with itemsAvailable := 2 }
    catalogue := [(0, ⟨"a", "b"⟩), (1, ⟨"c", "d"⟩)] }

/-- A drop of one item, which is hidden. -/
def hiddenItem : Deployment :=
  { oneItem with
    terms := { oneItem.terms with hidden := some ⟨"", "", ⟨List.replicate 32 0, rfl⟩⟩ } }

theorem lines_fit_of_within_twoItems :
    ∃ t u e tx line, Runs oneItemSite.slot [twoItems, oneItem] (t ++ u) ∧ e ∈ t ∧ e.submitted? = some tx ∧
      Record.Writes tx (default : Keypair).address 1 line ∧ LinesFit (t ++ u) := by
  obtain ⟨t, _, ht, -, hmakes, hhonest⟩ := @exists_makes_servedRun twoItems .empty (fun _ => true) (by decide +kernel)
  obtain ⟨u, _, -, -, hmakes', hhonest'⟩ :=
    @exists_makes_servedRun oneItem (Kept.empty.after t) (fun _ => true) (by rw [ht]; decide +kernel)
  have hruns : Runs oneItemSite.slot [twoItems, oneItem] (t ++ u) :=
    .run (.run .none rfl hmakes hhonest) rfl hmakes' hhonest'
  have hwrites : (t.any fun e => e.submitted?.any fun tx => tx.instructions.any fun i =>
      (Record.lineAt? i (default : Keypair).address 1).isSome) = true := by
    rw [ht]
    decide +kernel
  obtain ⟨e, he, htx⟩ := List.any_eq_true.1 hwrites
  obtain ⟨tx, htx, hline⟩ := (Option.any_eq_true _ _).1 htx
  obtain ⟨i, hi, hline⟩ := List.any_eq_true.1 hline
  obtain ⟨line, hline⟩ := Option.isSome_iff_exists.1 hline
  have hwithin : [twoItems, oneItem].Pairwise fun d₀ d => d.Within d₀ := List.pairwise_pair.2 fun _ => by decide
  exact ⟨t, u, e, tx, line, hruns, he, htx, ⟨i, hi, hline⟩, (lines_fit_of_within hruns).2 hwithin⟩

/-- A drop whose item is hidden leaves no room for lines; when two items are listed under the same name later, both of
them are written to its record. -/
theorem lines_outside_hiddenItem :
    ∃ past, Runs oneItemSite.slot [hiddenItem, twoItems] past ∧ ¬ LinesFit past := by
  obtain ⟨t, first, ht, -, hmakes, hhonest⟩ :=
    @exists_makes_servedRun hiddenItem .empty (fun _ => true) (by decide +kernel)
  obtain ⟨u, second, -, hsuccess, hmakes', hhonest'⟩ :=
    @exists_makes_servedRun twoItems (Kept.empty.after t) (·.success) (by rw [ht]; decide +kernel)
  have hfirst : Runs oneItemSite.slot [hiddenItem] t := .run .none rfl hmakes hhonest
  obtain ⟨k, hk, hid⟩ := identity_of_course (makes_run hmakes) hhonest
  have hnew : (Kept.empty.after t oneItemSite.slot).any (fun k => !k.items.isOnChain 1) = true := by
    rw [ht]
    decide +kernel
  rw [hk, Option.any_some, Bool.not_eq_true'] at hnew
  obtain ⟨c, hc, space, r, hcreates⟩ := hfirst.recorded k hk _ hid
  obtain ⟨d, hd, hr⟩ := hfirst.describes c hc _ space r hcreates
  obtain rfl := List.mem_singleton.1 hd
  have hout : ¬ r.HasLine space 1 := by
    rw [hr.hasLine_iff]
    decide
  exact ⟨t ++ u, .run hfirst rfl hmakes' hhonest',
    not_linesFit_of_success hmakes' hhonest' hsuccess hk hid (by decide) (by decide) hnew hc hcreates hout⟩

end Deployment

end MintDrop
