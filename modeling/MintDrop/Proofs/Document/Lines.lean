import Mathlib.Data.Nat.Digits.Defs
import MintDrop.Proofs.Document.Bounds
import MintDrop.Proofs.Kept

/-!
# The lines of a resolved drop

A decimal is not longer than that of a greater number (`Utf8.size_toString_le`), so that the last line of a naming
template bounds all lines before it (`Sequel.size_line_le`).  Each index of a resolved drop is given the listed item,
else the line of the template (`line?_of_makes_resolve`), and either of them fits its slot (`line?_fits`).
-/

namespace MintDrop

/-! ### Lines of a template -/

theorem length_encodeChar_of_isDigit {c : Char} (h : c.isDigit) : (String.utf8EncodeChar c).length = 1 := by
  rw [String.length_utf8EncodeChar, Char.utf8Size_eq_one_iff, UInt32.le_iff_toNat_le]
  obtain ⟨-, hhigh⟩ := Char.isDigit_iff_toNat.1 h
  exact Nat.le_trans hhigh (by decide)

theorem Utf8.size_toString (n : ℕ) : size (toString n) = (Nat.toDigits 10 n).length :=
  size_ofList fun _ hc => length_encodeChar_of_isDigit (Nat.isDigit_of_mem_toDigits (by decide) (by decide) hc)

/-- The length of a decimal is the least power of ten above the number. -/
theorem Utf8.size_toString_le {m n : ℕ} (h : m ≤ n) : size (toString m) ≤ size (toString n) := by
  rw [size_toString, size_toString, Nat.length_toDigits_le_iff (by decide) Nat.length_toDigits_pos]
  apply Nat.lt_of_le_of_lt h
  rw [← Nat.length_toDigits_le_iff (by decide) Nat.length_toDigits_pos]

theorem Sequel.size_line_le (s : Sequel) {i last : ℕ} (h : i ≤ last) :
    Utf8.size (s.line i).name ≤ Utf8.size (s.line last).name ∧
      Utf8.size (s.line i).uri ≤ Utf8.size (s.line last).uri := by
  have hnumber := Utf8.size_toString_le h
  simp only [Sequel.line, Utf8.size_append]
  omega

/-! ### Where a line comes from -/

namespace Document

open Script

variable {now : ℤ} {doc : Document} {payer : Address} {t : List Exchange} {d : Deployment} {index : UInt32}

/-- The line that a document lists at an index: that of the last item whose place, as a number of 32 bits, is the
index. -/
def listed? (doc : Document) (index : UInt32) : Option Line :=
  ((doc.items.getD []).mapIdx fun i item => (UInt32.ofNat i, (⟨item.name, item.uri⟩ : Line))).reverse.lookup index

/-- As long as the places are numbers of 32 bits, each index has the item at its place. -/
theorem lookup_reverse_mapIdx {α β : Type} (f : α → β) {as : List α} (h : as.length ≤ UInt32.size) (index : UInt32) :
    (as.mapIdx fun i a => (UInt32.ofNat i, f a)).reverse.lookup index = as[index.toNat]?.map f := by
  induction as using List.reverseRecOn with
  | nil => rfl
  | append_singleton as a ih =>
      rw [List.length_append, List.length_singleton] at h
      have hkey : (UInt32.ofNat as.length).toNat = as.length := UInt32.toNat_ofNat_of_lt' h
      rw [List.mapIdx_concat, List.reverse_concat, Entries.lookup_cons, ih (Nat.le_of_succ_le h)]
      by_cases hindex : index = UInt32.ofNat as.length
      · rw [if_pos hindex, hindex, hkey, List.getElem?_concat_length]
        rfl
      · have hne : index.toNat ≠ as.length := fun heq => hindex (UInt32.toNat_inj.1 (heq.trans hkey.symm))
        rw [if_neg hindex]
        rcases Nat.lt_or_gt_of_ne hne with hlt | hgt
        · rw [List.getElem?_append_left hlt]
        · rw [List.getElem?_eq_none (Nat.le_of_lt hgt),
            List.getElem?_eq_none (by rw [List.length_append, List.length_singleton]; omega)]

theorem listed?_eq_getElem? (h : (doc.items.getD []).length ≤ UInt32.size) (index : UInt32) :
    doc.listed? index = (doc.items.getD [])[index.toNat]?.map fun item => ⟨item.name, item.uri⟩ :=
  lookup_reverse_mapIdx _ h index

/-- A line that is listed is that of an item. -/
theorem exists_of_listed? {line : Line} (h : doc.listed? index = some line) :
    ∃ (i : ℕ) (item : Item), (doc.items.getD [])[i]? = some item ∧ line = ⟨item.name, item.uri⟩ := by
  obtain ⟨before, after, hsplit, -⟩ := List.lookup_eq_some_iff.1 h
  have hmem : (index, line) ∈
      (doc.items.getD []).mapIdx fun i item => (UInt32.ofNat i, (⟨item.name, item.uri⟩ : Line)) := by
    rw [← List.mem_reverse, hsplit]
    simp
  obtain ⟨i, hi, heq⟩ := List.mem_mapIdx.1 hmem
  exact ⟨i, _, List.getElem?_eq_getElem hi, (congrArg Prod.snd heq).symm⟩

/-- An index has no listed line just if it is past the items. -/
theorem listed?_eq_none_iff : doc.listed? index = none ↔ (doc.items.getD []).length ≤ index.toNat := by
  constructor
  · intro h
    by_contra hlt
    have hmem : (UInt32.ofNat index.toNat, (⟨_, _⟩ : Line)) ∈
        (doc.items.getD []).mapIdx fun i item => (UInt32.ofNat i, (⟨item.name, item.uri⟩ : Line)) :=
      List.mem_mapIdx.2 ⟨index.toNat, Nat.lt_of_not_le hlt, rfl⟩
    have hne := List.lookup_eq_none_iff.1 h _ (List.mem_reverse.2 hmem)
    simp at hne
  · intro hle
    have hsize : index.toNat < UInt32.size := index.toNat_lt_size
    rw [listed?_eq_getElem? (by omega), List.getElem?_eq_none hle]
    rfl

/-- The line that the template of a document makes at an index. -/
def templated? (doc : Document) (index : UInt32) : Option Line :=
  doc.sequel.map fun s => MintDrop.Sequel.line ⟨s.name, s.uri, s.mintsInOrder⟩ index.toNat

theorem line?_of_makes_resolve (h : Makes (resolve now doc payer).run t (some (.ok d))) (index : UInt32) :
    d.line? index = (doc.listed? index).or (doc.templated? index) := by
  obtain ⟨-, ⟨decimals, hterms⟩, hcatalogue⟩ := exists_of_makes_resolve h
  obtain ⟨-, -, -, -, -, -, -, hsequel⟩ := terms_eq_ok hterms
  have hlookup : d.catalogue.lookup index = doc.listed? index := by
    rw [hcatalogue, catalogue, Entries.lookup_ofList, listed?]
  rw [Deployment.line?, hlookup, hsequel, Option.map_map, templated?]
  cases doc.listed? index <;> rfl

theorem size_le_of_listed? (h : doc.itemProblems = []) {line : Line} (hline : doc.listed? index = some line) :
    Utf8.size line.name ≤ Terms.maxName ∧ Utf8.size line.uri ≤ Terms.maxUri := by
  obtain ⟨i, item, hitem, rfl⟩ := exists_of_listed? hline
  cases hitems : doc.items with
  | none =>
      rw [hitems] at hitem
      cases hitem
  | some items =>
      rw [hitems] at hitem
      rw [itemProblems, hitems] at h
      obtain ⟨-, hlines⟩ := List.append_eq_nil_iff.1 h
      have hmem : (item, i) ∈ items.zipIdx := List.mk_mem_zipIdx_iff_getElem?.2 hitem
      exact size_le_of_lineProblems (List.flatMap_eq_nil_iff.1 hlines _ hmem)

/-- Only the last line of a template is checked. -/
theorem size_le_of_templated? (h : doc.sequelProblems = []) (hindex : index.toNat < doc.number.toNat) {line : Line}
    (hline : doc.templated? index = some line) :
    Utf8.size line.name ≤ Terms.maxName ∧ Utf8.size line.uri ≤ Terms.maxUri := by
  obtain ⟨s, hs, rfl⟩ := Option.map_eq_some_iff.1 hline
  rw [sequelProblems, hs] at h
  obtain ⟨hname, huri⟩ := size_le_of_lineProblems h
  obtain ⟨hname', huri'⟩ := MintDrop.Sequel.size_line_le ⟨s.name, s.uri, s.mintsInOrder⟩ (Nat.le_sub_one_of_lt hindex)
  exact ⟨Nat.le_trans hname' hname, Nat.le_trans huri' huri⟩

/-- An index of a drop that was resolved, on whatever ledger, has the line that is listed there, else that of the
template, and it has none just if the drop has no template and lists fewer items.  A line that it has fits its slot.
What is listed at an index is the item at its place, if no more items are listed than there are indices. -/
theorem line?_fits (h : Makes (resolve now doc payer).run t (some (.ok d))) (hindex : index.toNat < doc.number.toNat) :
    d.line? index = (doc.listed? index).or (doc.templated? index) ∧
      ((doc.items.getD []).length ≤ UInt32.size →
        doc.listed? index = (doc.items.getD [])[index.toNat]?.map fun item => ⟨item.name, item.uri⟩) ∧
      (d.line? index = none ↔ doc.sequel = none ∧ (doc.items.getD []).length ≤ index.toNat) ∧
      ∀ line, d.line? index = some line → Utf8.size line.name ≤ 32 ∧ Utf8.size line.uri ≤ 200 := by
  rw [line?_of_makes_resolve h]
  refine ⟨rfl, fun hlength => listed?_eq_getElem? hlength index, ?_, ?_⟩
  · rw [Option.or_eq_none_iff, listed?_eq_none_iff, templated?, Option.map_eq_none_iff, and_comm]
  · intro line hline
    obtain ⟨hproblems, -, -⟩ := exists_of_makes_resolve h
    simp only [problems, List.append_eq_nil_iff] at hproblems
    obtain ⟨⟨-, htemplate⟩, hitems⟩ := hproblems
    rcases Option.or_eq_some_iff.1 hline with hlisted | ⟨-, htemplated⟩
    · exact size_le_of_listed? hitems hlisted
    · exact size_le_of_templated? htemplate hindex htemplated

/-- A document of twelve items, of which one is listed; the last line of its template fills its slot. -/
def twelveItems : Document :=
  { Document.blank with
    number := 12
    items := some [⟨"The first one", "ipfs://first"⟩]
    sequel := some ⟨"Drop of twelve numbered bits", "ipfs://", false⟩ }

theorem line?_fits_twelveItems :
    ∃ t d, Makes (resolve 0 twelveItems .zero).run t (some (.ok d)) ∧
      d.line? 0 = some ⟨"The first one", "ipfs://first"⟩ ∧
      d.line? 11 = some ⟨"Drop of twelve numbered bits #11", "ipfs://11"⟩ ∧
      Utf8.size "Drop of twelve numbered bits #11" ≤ 32 ∧ Utf8.size "ipfs://11" ≤ 200 := by
  obtain ⟨d, hd, hmakes⟩ := @exists_makes_ok _ _ _ Kept.serve (resolve 0 twelveItems .zero).run .empty
    (fun d => d.line? 0 = some ⟨"The first one", "ipfs://first"⟩ &&
      d.line? 11 = some ⟨"Drop of twelve numbered bits #11", "ipfs://11"⟩) (by decide +kernel)
  obtain ⟨hfirst, hlast⟩ := Bool.and_eq_true_iff.1 hd
  have hindex : (11 : UInt32).toNat < twelveItems.number.toNat := by decide
  exact ⟨_, d, hmakes, of_decide_eq_true hfirst, of_decide_eq_true hlast,
    (line?_fits hmakes hindex).2.2.2 _ (of_decide_eq_true hlast)⟩

end Document

end MintDrop
