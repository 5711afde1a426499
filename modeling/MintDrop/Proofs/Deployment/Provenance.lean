import MintDrop.Proofs.Deployment.History

/-!
# Where marked lines come from

An item of the kept progress is marked only if the record of that progress holds its line: `Backed` says so of
progress and the transactions that the ledger has confirmed.  Every part of a run preserves it, wherever the run
is cut off (`backed_of_course`), and so does every history (`backed_of_history`).
-/

namespace MintDrop.Deployment

open Script

/-- Whether each marked item has its line in the record, as the last one that was written there. -/
def Backed (txs : List Transaction) (p : Progress) : Prop :=
  ∀ i, p.items.isOnChain i →
    ∃ id, p.identity = .ok (some id) ∧ Record.lastLine? txs id.address i = p.line? i

/-- Whether nothing is minted in order, so that all items are written before they count as written. -/
def WritesItems (d : Deployment) : Prop := ∀ s, d.terms.sequel = some s → s.mintsInOrder = false

section

variable {d : Deployment} {site : Site} {key : Keypair} {loaded : Option Progress} {p p' k : Progress}
  {id : Identity} {created : Bool} {count : UInt32} {t : List Exchange} {kept : Kept}
  {txs : List Transaction}

theorem backed_of_unmarked (h : ∀ i, p.items.isOnChain i = false) : Backed txs p := by
  intro i hi
  rw [h i] at hi
  cases hi

/-- Without an identity nothing is marked. -/
theorem Backed.unmarked (h : Backed txs p) (hid : p.identity = .ok none) (i : UInt32) :
    p.items.isOnChain i = false := by
  by_contra hi
  rw [Bool.not_eq_false] at hi
  obtain ⟨id, hid', -⟩ := h i hi
  rw [hid] at hid'
  cases hid'

theorem Readied.backed (h : Readied d site loaded p) (hloaded : ∀ k, loaded = some k → Backed txs k) :
    Backed txs p := by
  intro i hi
  rw [h.isOnChain] at hi
  cases loaded with
  | none => cases hi
  | some k =>
      obtain ⟨id, hid, hline⟩ := hloaded k rfl i hi
      refine ⟨id, ?_, ?_⟩
      · rw [← hid]
        exact identity_eq_of_program_eq h.program
      · rw [hline]
        exact ((h.behind rfl).isOnChain i hi).2

theorem unmarked_afterCreation (hd : d.WritesItems) (hp : ∀ i, p.items.isOnChain i = false)
    (h : afterCreation d count id p = some p') (i : UInt32) : p'.items.isOnChain i = false := by
  rcases (afterCreation_eq_some h).2.2 with hitems | ⟨s, hs, hitems⟩
  · rw [hitems]
    exact hp i
  · rw [hitems, isOnChain_placeholders (hd s hs)]
    exact hp i

/-! ### Preservation -/

/-- Up to the upload, what is kept stays backed: nothing is marked as long as there is no record. -/
theorem backed_of_ensured {r : Option (Except Error (Identity × Bool × Progress))} (hd : d.WritesItems)
    (hready : Readied d site loaded p) (hkept : loaded = kept site.slot)
    (hbacked : ∀ k, kept site.slot = some k → Backed txs k) (h : Ensured d site count key p t r) :
    (∀ k, kept.after t site.slot = some k → Backed (txs ++ t.filterMap Exchange.confirmed?) k) ∧
      ∀ id created p', r = some (.ok (id, created, p')) →
        Backed (txs ++ t.filterMap Exchange.confirmed?) p' := by
  have hp : Backed txs p := hready.backed fun k hk => hbacked k (hkept.symm.trans hk)
  have hunmarked : p.identity = .ok none → ∀ k, kept site.slot = some k → ∀ i, k.items.isOnChain i = false := by
    intro hid k hk i
    refine (hbacked k hk).unmarked ?_ i
    rw [identity_eq_of_program_eq (hready.behind (hkept.trans hk)).program]
    exact hid
  cases h with
  | halted hfailed =>
      rw [List.filterMap_nil, List.append_nil]
      exact ⟨hbacked, fun _ _ _ hr => absurd hr (hfailed _)⟩
  | kept =>
      rw [List.filterMap_nil, List.append_nil]
      refine ⟨hbacked, fun _ _ _ hr => ?_⟩
      cases hr
      exact hp
  | creating hid hcreation =>
      refine ⟨fun k hk => backed_of_unmarked (hunmarked hid k ?_), fun _ _ _ hr => by cases hr⟩
      rwa [hcreation.after_eq] at hk
  | uncreated hid hcreation hfailed =>
      refine ⟨fun k hk => backed_of_unmarked (hunmarked hid k ?_), fun _ _ _ hr => absurd hr (hfailed _)⟩
      rwa [hcreation.after_eq] at hk
  | unsaved hid hcreation _ hfailed =>
      refine ⟨fun k hk => backed_of_unmarked (hunmarked hid k ?_), fun _ _ _ hr => absurd hr (hfailed _)⟩
      rw [Kept.after_append] at hk
      exact (hcreation.after_eq site.slot).symm.trans hk
  | @created t₁ q _ hid hcreation hafter hr =>
      have hq := unmarked_afterCreation hd (hp.unmarked hid) hafter
      refine ⟨fun k hk => backed_of_unmarked fun i => ?_, fun _ _ _ hr' => ?_⟩
      · rw [Kept.after_append, Kept.after_cons, Kept.after_nil] at hk
        obtain rfl : q.stamp site.slot = k := Option.some.inj ((kept_save ..).symm.trans hk)
        exact hq i
      · rcases hr with rfl | rfl
        · cases hr'
        · cases hr'
          exact backed_of_unmarked hq

/-- Progress stays backed during an upload if it has the lines of the progress at the start, and marks only where
that had them or where the ledger has confirmed the line. -/
theorem backed_of_marks {q : Progress} {later : List Transaction} (hp : Backed txs p)
    (hid : p.identity = .ok (some id))
    (honly : ∀ tx ∈ later, ∀ i line, Record.Writes tx id.address i line → p.line? i = some line)
    (hprogram : q.program = p.program)
    (hmarks : ∀ i, q.items.isOnChain i → q.line? i = p.line? i ∧ (p.items.isOnChain i ∨
      ∃ tx ∈ later, ∃ line, p.line? i = some line ∧ Record.Writes tx id.address i line)) :
    Backed (txs ++ later) q := by
  intro i hi
  obtain ⟨hqp, hmarked⟩ := hmarks i hi
  obtain ⟨item, hitem⟩ := Items.exists_get?_of_isOnChain hi
  have hline : p.line? i = some (Upload.line item) := by
    rw [← hqp, Progress.line?, hitem]
    rfl
  refine ⟨id, ?_, ?_⟩
  · rw [identity_eq_of_program_eq hprogram, hid]
  · rw [hqp, hline]
    refine Record.lastLine?_append_eq (fun tx htx line hwrites => ?_) (hmarked.imp (fun hpi => ?_) ?_)
    · exact Option.some.inj ((honly tx htx i line hwrites).symm.trans hline)
    · obtain ⟨id', hid', hlast⟩ := hp i hpi
      have hsame : Except.ok (some id) = Except.ok (some id') := hid.symm.trans hid'
      rw [Option.some.inj (Except.ok.inj hsame), hlast, hline]
    · rintro ⟨tx, htx, line, hline', hwrites⟩
      obtain rfl : Upload.line item = line := Option.some.inj (hline.symm.trans hline')
      exact ⟨tx, htx, hwrites⟩

/-- During an upload what is kept stays backed: a line is confirmed before its item is marked, and the lines of
the items do not change. -/
theorem backed_of_uploading {r : Option (Except Error Report)} (hp : Backed txs p)
    (hid : p.identity = .ok (some id)) (hslot : p.slot = site.slot)
    (hcovers : d.uploadsItems → Upload.Covers p d.itemCount.toUInt32) (hk : kept site.slot = some k)
    (hbehind : Behind k p) (h : Uploading d site id created p t r) :
    ∀ k, kept.after t site.slot = some k → Backed (txs ++ t.filterMap Exchange.confirmed?) k := by
  have hmarks : ∀ i, k.items.isOnChain i → k.line? i = p.line? i ∧ (p.items.isOnChain i ∨
      ∃ tx ∈ t.filterMap Exchange.confirmed?, ∃ line, p.line? i = some line ∧
        Record.Writes tx id.address i line) :=
    fun i hi => ⟨(hbehind.isOnChain i hi).2, Or.inl (hbehind.isOnChain i hi).1⟩
  intro k' hk'
  cases h with
  | skipped =>
      obtain rfl : k = k' := Option.some.inj (hk.symm.trans hk')
      exact backed_of_marks hp hid (fun _ htx => by cases htx) hbehind.program hmarks
  | uploaded hd hmakes =>
      have hitems := hcovers hd
      obtain ⟨log, b, hcourse, -⟩ := Upload.makes_run hitems hmakes
      have honly : ∀ tx ∈ t.filterMap Exchange.confirmed?, ∀ i line,
          Record.Writes tx id.address i line → p.line? i = some line :=
        fun tx htx i line hwrites => hcourse.line?_of_writes htx hwrites
      rw [after_eq_lastSaved (hslot ▸ hcourse.savesTo)] at hk'
      cases hsaved : lastSaved? t with
      | none =>
          rw [hsaved] at hk'
          obtain rfl : k = k' := Option.some.inj (hk.symm.trans hk')
          exact backed_of_marks hp hid honly hbehind.program hmarks
      | some q =>
          rw [hsaved] at hk'
          obtain rfl : q.stamp site.slot = k' := Option.some.inj hk'
          have hq := Upload.mem_offered_of_lastSaved hsaved
          have hadvances : p.Advances q := (List.pairwise_cons.1 (hcourse.chain hitems).1).1 q hq
          exact backed_of_marks hp hid honly hadvances.program
            fun i hi => ⟨hadvances.line? i, hcourse.isOnChain hitems hq hi⟩

/-- A run keeps what is kept backed, wherever it is cut off. -/
theorem backed_of_course {r : Option (Except Error Report)} (hd : d.WritesItems) (h : Course d site key t r)
    (hhonest : kept.Honest t) (hbacked : ∀ k, kept site.slot = some k → Backed txs k) :
    ∀ k, kept.after t site.slot = some k → Backed (txs ++ t.filterMap Exchange.confirmed?) k := by
  cases h with
  | unstarted =>
      rw [List.filterMap_nil, List.append_nil]
      exact hbacked
  | unloaded | unready =>
      change ∀ k, kept site.slot = some k → Backed (txs ++ []) k
      rw [List.append_nil]
      exact hbacked
  | unensured hready hensured =>
      exact (backed_of_ensured hd hready hhonest.1 hbacked hensured).1
  | @uploading loaded p p' id created t u r hready hensured huploading =>
      obtain ⟨hkept, hp'⟩ := backed_of_ensured hd hready hhonest.1 hbacked hensured
      obtain ⟨hid, hslot, k₁, hk₁, hbehind⟩ := kept_of_ensured hready hhonest.1 hensured
      have hcovers : d.uploadsItems → Upload.Covers p' d.itemCount.toUInt32 :=
        fun hitems => covers_of_ensured (hready.covers hitems) hensured
      have := backed_of_uploading (hp' _ _ _ rfl) hid hslot hcovers hk₁ hbehind huploading
      rw [List.append_assoc, ← List.filterMap_append] at this
      change ∀ k, kept.after (t ++ u) site.slot = some k → _
      rw [Kept.after_append]
      exact this

end

/-! ### Histories -/

theorem backed_of_history {slot : Slot} {past : List Exchange}
    (h : History slot (fun d _ => d.WritesItems) .empty past) :
    ∀ k, Kept.empty.after past slot = some k → Backed (past.filterMap Exchange.confirmed?) k := by
  induction h with
  | none => exact fun _ hk => by cases hk
  | run _ hslot hd hmakes hhonest ih =>
      subst hslot
      rw [Kept.after_append, List.filterMap_append]
      exact backed_of_course hd (makes_run hmakes) hhonest ih

/-- Whatever runs have begun with nothing kept, and wherever they were cut off, a marked item of the kept
progress is one whose line the ledger wrote last at its index of the record that is kept with it. -/
theorem marked_lines_written {slot : Slot} {past : List Exchange} {p : Progress} {i : UInt32} {item : Item}
    (h : History slot (fun d _ => d.WritesItems) .empty past) (hp : Kept.empty.after past slot = some p)
    (hitem : p.items.get? i = some item) (honChain : item.onChain) :
    ∃ id, p.identity = .ok (some id) ∧
      Record.lastLine? (past.filterMap Exchange.confirmed?) id.address i = some ⟨item.name, item.uri⟩ := by
  have hmarked : p.items.isOnChain i := by
    rw [Items.isOnChain, hitem]
    exact honChain
  obtain ⟨id, hid, hlast⟩ := backed_of_history h p hp i hmarked
  refine ⟨id, hid, hlast.trans ?_⟩
  rw [Progress.line?, hitem]
  rfl

theorem marked_lines_written_oneItem :
    ∃ t p item id, History oneItemSite.slot (fun d _ => d.WritesItems) .empty t ∧
      Kept.empty.after t oneItemSite.slot = some p ∧ p.items.get? 0 = some item ∧ item.onChain ∧
      p.identity = .ok (some id) ∧
      Record.lastLine? (t.filterMap Exchange.confirmed?) id.address 0 = some ⟨item.name, item.uri⟩ := by
  obtain ⟨t, report, ht, -, hmakes, hhonest⟩ :=
    @exists_makes_oneItemRun .empty (fun _ => true) (by decide +kernel)
  have hhistory : History oneItemSite.slot (fun d _ => d.WritesItems) .empty t :=
    .run .none rfl (fun _ hs => by cases hs) hmakes hhonest
  have hmarked : ((Kept.empty.after t oneItemSite.slot).bind (·.items.get? 0)).any (·.onChain) = true := by
    rw [ht]
    decide +kernel
  obtain ⟨item, hitem, honChain⟩ := (Option.any_eq_true _ _).1 hmarked
  obtain ⟨p, hp, hget⟩ := Option.bind_eq_some_iff.1 hitem
  obtain ⟨id, hid, hlast⟩ := marked_lines_written hhistory hp hget honChain
  exact ⟨t, p, item, id, hhistory, hp, hget, honChain, hid, hlast⟩

end MintDrop.Deployment
