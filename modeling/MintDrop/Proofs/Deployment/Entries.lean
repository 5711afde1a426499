import MintDrop.Proofs.Deployment.Identity

/-!
# The items that a run keeps

Items only grow in the course of a run: `Extends` says that all items are still there with their lines and their marks,
and that each new one has its line from the settings of the drop at its own index.  The three places where items are
written preserve it (`extends_of_fillItems`, `extends_placeholders`, `extends_of_advances`), so it holds of all that a
run hands to the store, whatever is saved of it (`extends_of_course`).
-/

namespace MintDrop.Deployment

open Script

/-- Whether a drop has a line for an index: in its catalogue, or by its naming template. -/
def Names (d : Deployment) (i : UInt32) (line : Line) : Prop :=
  d.catalogue.lookup i = some line ∨ ∃ s, d.terms.sequel = some s ∧ s.line i.toNat = line

/-- Whether items are earlier ones with their lines and at least their marks, and others with the lines of a drop. -/
structure Extends (d : Deployment) (items items' : Items) : Prop where
  keeps : ∀ i item, items.get? i = some item → ∃ item', items'.get? i = some item' ∧
    Upload.line item' = Upload.line item ∧ (item.onChain → item'.onChain)
  adds : ∀ i item, items'.get? i = some item → items.get? i = none → d.Names i (Upload.line item)

variable {d : Deployment} {site : Site} {key : Keypair} {items items' items'' : Items} {p p' q : Progress}
  {t : List Exchange} {kept : Kept}

theorem names_of_line? {i : UInt32} {line : Line} (h : d.line? i = some line) : d.Names i line := by
  unfold Deployment.line? at h
  split at h
  · rename_i line' hlookup
    exact Or.inl (hlookup.trans h)
  · obtain ⟨s, hs, hline⟩ := Option.map_eq_some_iff.1 h
    exact Or.inr ⟨s, hs, hline⟩

theorem Extends.refl (d : Deployment) (items : Items) : d.Extends items items where
  keeps _ item hi := ⟨item, hi, rfl, id⟩
  adds i _ hi hnone := by
    rw [hnone] at hi
    cases hi

theorem Extends.trans (h : d.Extends items items') (h' : d.Extends items' items'') : d.Extends items items'' where
  keeps i item hi := by
    obtain ⟨item', hi', hline, hmark⟩ := h.keeps i item hi
    obtain ⟨item'', hi'', hline', hmark'⟩ := h'.keeps i item' hi'
    exact ⟨item'', hi'', hline'.trans hline, fun hm => hmark' (hmark hm)⟩
  adds i item hi hnone := by
    cases hmid : items'.get? i with
    | none => exact h'.adds i item hi hmid
    | some item' =>
        obtain ⟨item'', hi'', hline, -⟩ := h'.keeps i item' hmid
        obtain rfl : item = item'' := Option.some.inj (hi.symm.trans hi'')
        rw [hline]
        exact h.adds i item' hmid hnone

/-! ### One item -/

/-- An item may be put where there is none if the drop has its line, and where there is one with the same line. -/
theorem extends_insert {i : UInt32} {item : Item} (hnew : items.get? i = none → d.Names i (Upload.line item))
    (hold : ∀ item', items.get? i = some item' →
      Upload.line item = Upload.line item' ∧ (item'.onChain → item.onChain)) :
    d.Extends items (items.insert i item) where
  keeps j item' hj := by
    rw [Items.get?_insert]
    split_ifs with hji
    · rw [hji] at hj
      exact ⟨item, rfl, hold item' hj⟩
    · exact ⟨item', hj, rfl, id⟩
  adds j item' hj hnone := by
    rw [Items.get?_insert] at hj
    split_ifs at hj with hji
    · obtain rfl := Option.some.inj hj
      rw [hji] at hnone ⊢
      exact hnew hnone
    · rw [hnone] at hj
      cases hj

/-! ### The three places where items are written -/

theorem extends_of_fillItems {index left : ℕ} (h : fillItems d index left items = .ok items') :
    d.Extends items items' := by
  induction left generalizing index items with
  | zero =>
      obtain rfl := Except.ok.inj h
      exact .refl d items
  | succ left ih =>
      rw [fillItems] at h
      split_ifs at h with hcontains
      · exact ih h
      · rw [Items.contains, Bool.not_eq_true, Option.isSome_eq_false_iff, Option.isNone_iff_eq_none] at hcontains
        split at h
        · cases h
        · rename_i line hline
          refine Extends.trans (extends_insert (fun _ => ?_) fun item' hi => ?_) (ih h)
          · exact names_of_line? hline
          · rw [hcontains] at hi
            cases hi

theorem extends_placeholders {s : Sequel} (hs : d.terms.sequel = some s) {index left : ℕ}
    (hsize : index + left ≤ UInt32.size) : d.Extends items (placeholders s index left items) := by
  induction left generalizing index items with
  | zero => exact .refl d items
  | succ left ih =>
      have hindex : (UInt32.ofNat index).toNat = index := UInt32.toNat_ofNat_of_lt' (by omega)
      refine Extends.trans (extends_insert (fun hnone => ?_) fun item hi => ?_) (ih (by omega))
      · rw [hnone]
        refine Or.inr ⟨s, hs, ?_⟩
        rw [hindex]
        rfl
      · rw [hi]
        refine ⟨rfl, fun hm => ?_⟩
        rw [Option.getD_some, hm, Bool.true_or]

theorem extends_of_advances (h : p.Advances q) : d.Extends p.items q.items where
  keeps i item hi := by
    have hline : q.line? i = some (Upload.line item) := by rw [h.line? i, Progress.line?, hi, Option.map_some]
    obtain ⟨item', hi', hsame⟩ := Option.map_eq_some_iff.1 hline
    refine ⟨item', hi', hsame, fun hm => ?_⟩
    have hmark := h.isOnChain i (by rw [Items.isOnChain, hi]; exact hm)
    rwa [Items.isOnChain, hi'] at hmark
  adds i item hi hnone := by
    have hline := h.line? i
    rw [Progress.line?, Progress.line?, hi, hnone] at hline
    cases hline

/-! ### Phases -/

theorem extends_of_readied {loaded : Option Progress} (h : Readied d site loaded p) :
    d.Extends (starting site loaded).items p.items := by
  have hready := h.ready
  unfold readyProgress at hready
  split_ifs at hready
  · obtain ⟨items, hfill, rfl⟩ := exists_of_map_eq_ok hready
    exact extends_of_fillItems hfill
  · obtain rfl := Except.ok.inj hready
    exact .refl d _

theorem extends_of_afterCreation {count : UInt32} {id : Identity} (h : afterCreation d count id p = some p') :
    d.Extends p.items p'.items := by
  rcases (afterCreation_eq_some h).2.2 with hitems | ⟨s, hs, hitems⟩
  · rw [hitems]
    exact .refl d _
  · have hsize : count.toNat < UInt32.size := count.toNat_lt_size
    rw [hitems]
    exact extends_placeholders hs (by omega)

theorem Creation.offered_eq_nil {r : Option (Except LedgerError Identity)} (h : Creation key t r) :
    t.filterMap Exchange.offered? = [] := by
  cases h <;> rfl

/-- The save that follows the creation of a record keeps all items. -/
theorem extends_of_creation {count : UInt32} {id : Identity} {r : Option (Except LedgerError Identity)}
    (hcreation : Creation key t r) (hafter : afterCreation d count id p = some p') (site : Site)
    (reply : Except StoreError Unit) :
    SavesTo site.slot (t ++ [⟨.save site.slot p', reply⟩]) ∧
      ∀ q ∈ (t ++ [(⟨.save site.slot p', reply⟩ : Exchange)]).filterMap Exchange.offered?,
        d.Extends p.items q.items := by
  constructor
  · refine savesTo_append.2 ⟨(hcreation.savesTo site.slot).1, savesTo_cons.2 ⟨fun slot q hcall => ?_, savesTo_nil⟩⟩
    cases hcall
    rfl
  · rw [List.filterMap_append, hcreation.offered_eq_nil]
    intro q hq
    obtain rfl := List.mem_singleton.1 hq
    exact extends_of_afterCreation hafter

/-- Up to the upload, items only grow. -/
theorem extends_of_ensured {count : UInt32} {r : Option (Except Error (Identity × Bool × Progress))}
    (h : Ensured d site count key p t r) :
    SavesTo site.slot t ∧ ∀ q ∈ t.filterMap Exchange.offered?, d.Extends p.items q.items := by
  cases h with
  | halted | kept => exact ⟨savesTo_nil, fun _ hq => by cases hq⟩
  | creating _ hcreation | uncreated _ hcreation =>
      refine ⟨(hcreation.savesTo _).1, fun q hq => ?_⟩
      rw [hcreation.offered_eq_nil] at hq
      cases hq
  | unsaved _ hcreation hafter => exact extends_of_creation hcreation hafter site _
  | created _ hcreation hafter => exact extends_of_creation hcreation hafter site _

theorem extends_of_ensured_ok {count : UInt32} {id : Identity} {created : Bool}
    (h : Ensured d site count key p t (some (.ok (id, created, p')))) : d.Extends p.items p'.items := by
  rcases h.cases_ok with ⟨-, -, rfl, -⟩ | ⟨t₁, -, -, -, hafter⟩
  · exact .refl d _
  · exact extends_of_afterCreation hafter

/-- During an upload, items only gain marks. -/
theorem extends_of_uploading {id : Identity} {created : Bool} {r : Option (Except Error Report)}
    (hslot : p.slot = site.slot) (hcovers : d.uploadsItems → Upload.Covers p d.itemCount.toUInt32)
    (h : Uploading d site id created p t r) :
    SavesTo site.slot t ∧ ∀ q ∈ t.filterMap Exchange.offered?, d.Extends p.items q.items := by
  cases h with
  | skipped => exact ⟨savesTo_nil, fun _ hq => by cases hq⟩
  | uploaded hd hmakes =>
      obtain ⟨log, b, hcourse, -⟩ := Upload.makes_run (hcovers hd) hmakes
      refine ⟨hslot ▸ hcourse.savesTo, fun q hq => ?_⟩
      exact extends_of_advances ((List.pairwise_cons.1 (hcourse.chain (hcovers hd)).1).1 q hq)

/-! ### Runs -/

theorem savesTo_load {slot : Slot} {reply : Except StoreError (Option Progress)} (h : SavesTo slot t) :
    SavesTo slot (⟨.load slot, reply⟩ :: t) :=
  savesTo_cons.2 ⟨fun _ _ hcall => (by cases hcall), h⟩

/-- All that a run hands to the store has the items that it loaded, and more at most from its settings. -/
theorem extends_of_course {r : Option (Except Error Report)} (h : Course d site key t r) (hhonest : kept.Honest t) :
    SavesTo site.slot t ∧
      ∀ q ∈ t.filterMap Exchange.offered?, d.Extends (starting site (kept site.slot)).items q.items := by
  cases h with
  | unstarted => exact ⟨savesTo_nil, fun _ hq => by cases hq⟩
  | unloaded | unready => exact ⟨savesTo_load savesTo_nil, fun _ hq => by cases hq⟩
  | unensured hready hensured =>
      obtain ⟨hsaves, hoffered⟩ := extends_of_ensured hensured
      refine ⟨savesTo_load hsaves, fun q hq => ?_⟩
      rw [← hhonest.1]
      exact (extends_of_readied hready).trans (hoffered q hq)
  | @uploading loaded p p' id created t u _ hready hensured huploading =>
      obtain ⟨hsaves, hoffered⟩ := extends_of_ensured hensured
      obtain ⟨-, hslot, -⟩ := kept_of_ensured hready hhonest.1 hensured
      obtain ⟨hsaves', hoffered'⟩ :=
        extends_of_uploading hslot (fun hd => covers_of_ensured (hready.covers hd) hensured) huploading
      refine ⟨savesTo_load (savesTo_append.2 ⟨hsaves, hsaves'⟩), fun q hq => ?_⟩
      rw [← hhonest.1]
      refine (extends_of_readied hready).trans ?_
      change q ∈ (t ++ u).filterMap Exchange.offered? at hq
      rw [List.filterMap_append] at hq
      rcases List.mem_append.1 hq with hq | hq
      · exact hoffered q hq
      · exact (extends_of_ensured_ok hensured).trans (hoffered' q hq)

/-- What is kept after a run is what was kept before, or has been handed to the store. -/
theorem extends_of_kept {r : Option (Except Error Report)} (h : Course d site key t r) (hhonest : kept.Honest t) :
    (∀ k, kept site.slot = some k → ∃ k', kept.after t site.slot = some k') ∧
      ∀ k', kept.after t site.slot = some k' → d.Extends (starting site (kept site.slot)).items k'.items := by
  obtain ⟨hsaves, hoffered⟩ := extends_of_course h hhonest
  rw [after_eq_lastSaved hsaves]
  cases hsaved : lastSaved? t with
  | none =>
      refine ⟨fun k hk => ⟨k, hk⟩, fun k' hk' => ?_⟩
      change kept site.slot = some k' at hk'
      rw [hk']
      exact .refl d _
  | some q =>
      refine ⟨fun _ _ => ⟨_, rfl⟩, fun k' hk' => ?_⟩
      obtain rfl := Option.some.inj hk'
      exact hoffered q (Upload.mem_offered_of_lastSaved hsaved)

/-- Wherever a run is cut off and whatever fails in it, the store keeps every item that it kept before, with its name,
its content address and its mark, and both parts of an identity if they were there.  An item that is new has its name
and content address from the settings of the drop at its own index: from the catalogue, or from the naming template. -/
theorem entries_kept {r : Option (Except Error Report)} (h : Makes (run d site key).run t r)
    (hhonest : kept.Honest t) :
    (∀ k, kept site.slot = some k → ∃ k', kept.after t site.slot = some k' ∧
      (∀ i item, k.items.get? i = some item → ∃ item', k'.items.get? i = some item' ∧ item'.name = item.name ∧
        item'.uri = item.uri ∧ (item.onChain → item'.onChain)) ∧
      (Settled k → k'.program = k.program)) ∧
    ∀ k', kept.after t site.slot = some k' → ∀ i item, k'.items.get? i = some item →
      (kept site.slot).bind (·.items.get? i) = none → d.Names i ⟨item.name, item.uri⟩ := by
  have hcourse := makes_run h
  obtain ⟨hsome, hextends⟩ := extends_of_kept hcourse hhonest
  refine ⟨fun k hk => ?_, fun k' hk' i item hi hnone => ?_⟩
  · obtain ⟨k', hk'⟩ := hsome k hk
    have hitems := hextends k' hk'
    rw [hk] at hitems
    refine ⟨k', hk', fun i item hi => ?_, fun hsettled => ?_⟩
    · obtain ⟨item', hi', hline, hmark⟩ := hitems.keeps i item hi
      obtain ⟨hname, huri⟩ := Line.mk.inj hline
      exact ⟨item', hi', hname, huri, hmark⟩
    · obtain ⟨-, ⟨k'', hk'', hprogram⟩, -⟩ := settled_of_course hcourse hhonest hk hsettled
      obtain rfl : k' = k'' := Option.some.inj (hk'.symm.trans hk'')
      exact hprogram
  · refine (hextends k' hk').adds i item hi ?_
    cases hk : kept site.slot with
    | none => rfl
    | some k =>
        rw [hk] at hnone
        exact hnone

/-- A store that keeps a marked item beyond the one of the drop. -/
def laterItem : Kept :=
  Function.update Kept.empty oneItemSite.slot
    (some { Progress.new oneItemSite.slot with items := .ofList [(5, ⟨"x", "y", true, false⟩)] })

theorem entries_kept_oneItem :
    ∃ t report k item added, Makes (run oneItem oneItemSite default).run t (some (.ok report)) ∧
      laterItem.Honest t ∧ laterItem.after t oneItemSite.slot = some k ∧ k.items.get? 5 = some item ∧
      item.name = "x" ∧ item.uri = "y" ∧ item.onChain ∧ k.items.get? 0 = some added ∧
      oneItem.Names 0 ⟨added.name, added.uri⟩ := by
  obtain ⟨t, report, ht, -, hmakes, hhonest⟩ :=
    @exists_makes_oneItemRun laterItem (fun _ => true) (by decide +kernel)
  obtain ⟨hkept, hadded⟩ := entries_kept hmakes hhonest
  have hslot : laterItem oneItemSite.slot = some { Progress.new oneItemSite.slot with
      items := .ofList [(5, ⟨"x", "y", true, false⟩)] } := Function.update_self ..
  obtain ⟨k, hk, hitems, -⟩ := hkept _ hslot
  obtain ⟨item, hitem, hname, huri, hmark⟩ := hitems 5 ⟨"x", "y", true, false⟩ (by decide +kernel)
  have hfirst : ((laterItem.after t oneItemSite.slot).bind (·.items.get? 0)).isSome = true := by
    rw [ht]
    decide +kernel
  obtain ⟨added, hget⟩ := Option.isSome_iff_exists.1 hfirst
  rw [hk] at hget
  exact ⟨t, report, k, item, added, hmakes, hhonest, hk, hitem, hname, huri, hmark rfl, hget,
    hadded k hk 0 added hget (by decide +kernel)⟩

end MintDrop.Deployment
