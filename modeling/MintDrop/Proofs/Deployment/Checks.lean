import MintDrop.Proofs.Deployment.Entries
import MintDrop.Proofs.Deployment.Provenance

/-!
# Items that are still to be checked

An item that a run marks is not to be checked any more if it was written to the record; if nothing is written, since
items are minted in order, it keeps its check (`new_mark_awaitsCheck_iff`).  Up to the upload a run leaves all checks as
they are (`SameChecks`), and an upload ends the check of each item that it marks (`Upload.Sound.checked_of_new_mark`).
-/

namespace MintDrop

/-- Whether the item at an index is still to be checked. -/
def Items.awaitsCheck (items : Items) (i : UInt32) : Bool := (items.get? i).any (·.verifyRun)

/-! ### Uploads -/

namespace Upload

variable {site : Site} {p q : Progress} {groups : List Span} {log : Log} {b₀ b : Board} {t : List Exchange}

/-- An item that an upload has marked is not to be checked any more. -/
theorem Sound.checked_of_new_mark (h : Sound site p groups log b) {i : UInt32} {item : Item}
    (hi : b.progress.items.get? i = some item) (hmark : item.onChain) (hnew : p.items.isOnChain i = false) :
    item.verifyRun = false := by
  rw [h.get? i] at hi
  obtain ⟨before, hbefore, rfl⟩ := Option.map_eq_some_iff.1 hi
  split_ifs at hmark ⊢
  · rfl
  · rw [Items.isOnChain, hbefore] at hnew
    exact absurd hmark (Bool.eq_false_iff.1 hnew)

/-- What the groups hand to the store is the progress on the board at that moment. -/
theorem exists_steps_of_offered (h : Steps site b₀ log b) (hq : q ∈ log.offered) :
    ∃ log' b', Steps site b₀ log' b' ∧ b'.progress = q := by
  induction h with
  | refl => cases hq
  | tail hsteps hstep ih =>
      rw [Log.offered, List.filterMap_append] at hq
      rcases List.mem_append.1 hq with hq | hq
      · exact ih hq
      · cases hstep with
        | read | answer => cases hq
        | save reply ht hstage =>
            obtain rfl := List.mem_singleton.1 hq
            exact ⟨_, _, .tail hsteps (.save reply ht hstage), rfl⟩

theorem Course.exists_steps_of_offered (h : Course site b₀ log b t) (hq : q ∈ t.filterMap Exchange.offered?) :
    ∃ log' b', Steps site b₀ log' b' ∧ b'.progress = q := by
  cases h with
  | working h => exact Upload.exists_steps_of_offered h (offered_eq_filterMap log ▸ hq)
  | closed reply h =>
      rw [List.filterMap_append, ← offered_eq_filterMap] at hq
      rcases List.mem_append.1 hq with hq | hq
      · exact Upload.exists_steps_of_offered h hq
      · obtain rfl := List.mem_singleton.1 hq
        exact ⟨log, b, h, rfl⟩

end Upload

namespace Deployment

open Script

/-- Whether items have the checks of earlier ones, and their marks too unless items are minted in order. -/
structure SameChecks (d : Deployment) (items items' : Items) : Prop where
  awaitsCheck : ∀ i, items'.awaitsCheck i = items.awaitsCheck i
  isOnChain : d.WritesItems → ∀ i, items'.isOnChain i = items.isOnChain i

/-- Whether the items with new marks that are still to be checked are those that were to be checked before and are
minted in order. -/
def ChecksNewMarks (d : Deployment) (items items' : Items) : Prop :=
  ∀ i item, items'.get? i = some item → item.onChain → items.isOnChain i = false →
    (item.verifyRun ↔ ¬ d.WritesItems ∧ items.awaitsCheck i)

variable {d : Deployment} {site : Site} {key : Keypair} {items items' items'' : Items} {p p' q : Progress}
  {t : List Exchange} {kept : Kept}

/-! ### Checks that stay -/

theorem SameChecks.refl (d : Deployment) (items : Items) : d.SameChecks items items := ⟨fun _ => rfl, fun _ _ => rfl⟩

theorem SameChecks.trans (h : d.SameChecks items items') (h' : d.SameChecks items' items'') :
    d.SameChecks items items'' where
  awaitsCheck i := (h'.awaitsCheck i).trans (h.awaitsCheck i)
  isOnChain hd i := (h'.isOnChain hd i).trans (h.isOnChain hd i)

/-- Where the checks stay, a new mark is one of an item that is minted in order. -/
theorem SameChecks.checksNewMarks (h : d.SameChecks items items') : d.ChecksNewMarks items items' := by
  intro i item hi hmark hnew
  have hcheck : item.verifyRun = items.awaitsCheck i := by
    rw [← h.awaitsCheck i, Items.awaitsCheck, hi]
    rfl
  have hd : ¬ d.WritesItems := by
    intro hd
    have hsame := h.isOnChain hd i
    rw [hnew, Items.isOnChain, hi] at hsame
    exact absurd hmark (Bool.eq_false_iff.1 hsame)
  rw [hcheck]
  exact (and_iff_right hd).symm

theorem awaitsCheck_of_fillItems {index left : ℕ} (h : fillItems d index left items = .ok items') (i : UInt32) :
    items'.awaitsCheck i = items.awaitsCheck i := by
  induction left generalizing index items with
  | zero => rw [Except.ok.inj h]
  | succ left ih =>
      rw [fillItems] at h
      split_ifs at h with hcontains
      · exact ih h
      · split at h
        · cases h
        · rw [ih h]
          exact any_insert_fresh rfl (Bool.eq_false_iff.2 hcontains) i

/-- A placeholder is marked at most: it keeps its check. -/
theorem awaitsCheck_placeholders {s : Sequel} {index left : ℕ} (i : UInt32) :
    (placeholders s index left items).awaitsCheck i = items.awaitsCheck i := by
  induction left generalizing index items with
  | zero => rfl
  | succ left ih =>
      rw [placeholders, ih, Items.awaitsCheck, Items.awaitsCheck, Items.get?_insert]
      split_ifs with hi
      · rw [hi]
        cases items.get? (UInt32.ofNat index) <;> rfl
      · rfl

theorem sameChecks_of_readied {loaded : Option Progress} (h : Readied d site loaded p) :
    d.SameChecks (starting site loaded).items p.items := by
  refine ⟨fun i => ?_, fun _ => h.isOnChain⟩
  have hready := h.ready
  unfold readyProgress at hready
  split_ifs at hready
  · obtain ⟨items, hfill, rfl⟩ := exists_of_map_eq_ok hready
    exact awaitsCheck_of_fillItems hfill i
  · rw [Except.ok.inj hready]

theorem sameChecks_of_afterCreation {count : UInt32} {id : Identity} (h : afterCreation d count id p = some p') :
    d.SameChecks p.items p'.items := by
  rcases (afterCreation_eq_some h).2.2 with hitems | ⟨s, hs, hitems⟩
  · rw [hitems]
    exact .refl d _
  · rw [hitems]
    exact ⟨awaitsCheck_placeholders, fun hd => isOnChain_placeholders (hd s hs)⟩

/-- Up to the upload, all checks stay. -/
theorem sameChecks_of_ensured {count : UInt32} {r : Option (Except Error (Identity × Bool × Progress))}
    (h : Ensured d site count key p t r) :
    (∀ q ∈ t.filterMap Exchange.offered?, d.SameChecks p.items q.items) ∧
      ∀ id created p', r = some (.ok (id, created, p')) → d.SameChecks p.items p'.items := by
  refine ⟨?_, ?_⟩
  · cases h with
    | halted | kept => exact fun _ hq => by cases hq
    | creating _ hcreation | uncreated _ hcreation =>
        rw [hcreation.offered_eq_nil]
        exact fun _ hq => by cases hq
    | unsaved _ hcreation hafter | created _ hcreation hafter =>
        rw [List.filterMap_append, hcreation.offered_eq_nil]
        intro q hq
        obtain rfl := List.mem_singleton.1 hq
        exact sameChecks_of_afterCreation hafter
  · rintro id created p' rfl
    rcases h.cases_ok with ⟨-, -, rfl, -⟩ | ⟨t₁, -, -, -, hafter⟩
    · exact .refl d _
    · exact sameChecks_of_afterCreation hafter

/-! ### Checks that end -/

theorem writesItems_of_uploadsItems (h : d.uploadsItems) : d.WritesItems := by
  intro s hs
  rw [uploadsItems, Terms.skipsUpload, hs, Bool.not_eq_true', Bool.or_eq_false_iff] at h
  exact h.2

/-- During an upload, each item that is marked loses its check. -/
theorem checksNewMarks_of_uploading {id : Identity} {created : Bool} {r : Option (Except Error Report)}
    (hcovers : d.uploadsItems → Upload.Covers p d.itemCount.toUInt32) (hsame : d.SameChecks items p.items)
    (h : Uploading d site id created p t r) : ∀ q ∈ t.filterMap Exchange.offered?, d.ChecksNewMarks items q.items := by
  cases h with
  | skipped => exact fun _ hq => by cases hq
  | uploaded hd hmakes =>
      intro q hq i item hi hmark hnew
      obtain ⟨log, b, hcourse, -⟩ := Upload.makes_run (hcovers hd) hmakes
      obtain ⟨log', b', hsteps, rfl⟩ := hcourse.exists_steps_of_offered hq
      have hwrites := writesItems_of_uploadsItems hd
      have hchecked : item.verifyRun = false :=
        (Upload.sound_of_steps hsteps).checked_of_new_mark hi hmark ((hsame.isOnChain hwrites i).trans hnew)
      rw [hchecked]
      exact ⟨fun hcheck => (by cases hcheck), fun h => absurd hwrites h.1⟩

/-! ### Runs -/

/-- Whatever fails and wherever a run is cut off: in all progress that it hands to the store, an item that was not
marked in what the run has loaded, and now is, is still to be checked just if it was before and the items of the drop
are minted in order, so that it has not been written. -/
theorem new_mark_awaitsCheck_iff {r : Option (Except Error Report)} (h : Makes (run d site key).run t r)
    (hhonest : kept.Honest t) :
    ∀ q ∈ t.filterMap Exchange.offered?, ∀ i item, q.items.get? i = some item → item.onChain →
      (starting site (kept site.slot)).items.isOnChain i = false →
      (item.verifyRun ↔ ¬ d.WritesItems ∧ (starting site (kept site.slot)).items.awaitsCheck i) := by
  change ∀ q ∈ t.filterMap Exchange.offered?, d.ChecksNewMarks (starting site (kept site.slot)).items q.items
  cases makes_run h with
  | unstarted | unloaded | unready => exact fun _ hq => by cases hq
  | unensured hready hensured =>
      rw [← hhonest.1]
      intro q hq
      exact ((sameChecks_of_readied hready).trans ((sameChecks_of_ensured hensured).1 q hq)).checksNewMarks
  | @uploading loaded p p' id created t u _ hready hensured huploading =>
      rw [← hhonest.1]
      have hready' := sameChecks_of_readied hready
      obtain ⟨hoffered, hensured'⟩ := sameChecks_of_ensured hensured
      intro q hq
      change q ∈ (t ++ u).filterMap Exchange.offered? at hq
      rw [List.filterMap_append] at hq
      rcases List.mem_append.1 hq with hq | hq
      · exact (hready'.trans (hoffered q hq)).checksNewMarks
      · have hcovers : d.uploadsItems → Upload.Covers p' d.itemCount.toUInt32 :=
          fun hd => covers_of_ensured (hready.covers hd) hensured
        exact checksNewMarks_of_uploading hcovers (hready'.trans (hensured' _ _ _ rfl)) huploading q hq

/-- A store that keeps an item which is not marked, but is still to be checked. -/
def uncheckedItem : Kept :=
  Function.update Kept.empty oneItemSite.slot
    (some { Progress.new oneItemSite.slot with items := .ofList [(0, ⟨"a", "b", false, true⟩)] })

theorem new_mark_awaitsCheck_iff_oneItem :
    ∃ t report q item, Makes (run oneItem oneItemSite default).run t (some (.ok report)) ∧ uncheckedItem.Honest t ∧
      q ∈ t.filterMap Exchange.offered? ∧ q.items.get? 0 = some item ∧ item.onChain ∧
      (starting oneItemSite (uncheckedItem oneItemSite.slot)).items.awaitsCheck 0 ∧ item.verifyRun = false := by
  obtain ⟨t, report, ht, -, hmakes, hhonest⟩ :=
    @exists_makes_oneItemRun uncheckedItem (fun _ => true) (by decide +kernel)
  have hmarked : ((t.filterMap Exchange.offered?).any fun q => (q.items.get? 0).any (·.onChain)) = true := by
    rw [ht]
    decide +kernel
  obtain ⟨q, hq, hitem⟩ := List.any_eq_true.1 hmarked
  obtain ⟨item, hitem, hmark⟩ := (Option.any_eq_true _ _).1 hitem
  refine ⟨t, report, q, item, hmakes, hhonest, hq, hitem, hmark, by decide +kernel, ?_⟩
  have hiff := new_mark_awaitsCheck_iff hmakes hhonest q hq 0 item hitem hmark (by decide +kernel)
  exact Bool.eq_false_iff.2 fun hcheck => (hiff.1 hcheck).1 fun _ hs => by cases hs

/-- A drop of one item, which is minted in order. -/
def orderedItem : Deployment := { oneItem with terms := { oneItem.terms with sequel := some ⟨"a", "b", true⟩ } }

/-- When the record of a drop is created whose items are minted in order, an item that is still to be checked is marked
and stays so. -/
theorem ordered_item_keeps_check :
    ∃ t report q item, Makes (run orderedItem oneItemSite default).run t (some (.ok report)) ∧ uncheckedItem.Honest t ∧
      q ∈ t.filterMap Exchange.saved? ∧ q.items.get? 0 = some item ∧ item.onChain ∧ item.verifyRun ∧
      (starting oneItemSite (uncheckedItem oneItemSite.slot)).items.isOnChain 0 = false := by
  obtain ⟨t, report, ht, -, hmakes, hhonest⟩ :=
    @exists_makes_servedRun orderedItem uncheckedItem (fun _ => true) (by decide +kernel)
  have hmarked : ((t.filterMap Exchange.saved?).any fun q =>
      (q.items.get? 0).any fun item => item.onChain && item.verifyRun) = true := by
    rw [ht]
    decide +kernel
  obtain ⟨q, hq, hitem⟩ := List.any_eq_true.1 hmarked
  obtain ⟨item, hitem, hflags⟩ := (Option.any_eq_true _ _).1 hitem
  obtain ⟨hmark, hcheck⟩ := Bool.and_eq_true_iff.1 hflags
  exact ⟨t, report, q, item, hmakes, hhonest, hq, hitem, hmark, hcheck, by decide +kernel⟩

end Deployment

end MintDrop
