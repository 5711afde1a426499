import MintDrop.Document.Resolve
import MintDrop.Proofs.Record.Size
import MintDrop.Proofs.Trace

/-!
# What a checked document is good for

A deployment that `Document.resolve` makes has passed the checks of the document, whatever the ledger replied
(`exists_of_makes_resolve`).  Its texts and its list of creators leave room for a tag and one more creator
(`bounded_of_makes_resolve`).
-/

namespace MintDrop

theorem Problem.when_eq_nil {condition : Bool} {field message : String} :
    when condition field message = [] ↔ condition = false := by
  cases condition <;> simp [when]

theorem Utf8.size_append (s t : String) : size (s ++ t) = size s + size t := String.utf8ByteSize_append

namespace Document

open Script

variable {now : ℤ} {doc : Document} {payer : Address} {decimals : UInt8} {terms : Terms} {t : List Exchange}
  {d : Deployment}

/-! ### The checks -/

theorem problems_eq_nil_of_check (h : doc.check = .ok ()) : doc.problems = [] := by
  unfold check at h
  split_ifs at h with hempty
  exact List.isEmpty_iff.1 hempty

theorem size_le_of_lineProblems {field name uri : String} (h : lineProblems field name uri = []) :
    Utf8.size name ≤ Terms.maxName ∧ Utf8.size uri ≤ Terms.maxUri := by
  obtain ⟨hname, huri⟩ := List.append_eq_nil_iff.1 h
  simp only [Problem.when_eq_nil, decide_eq_false_iff_not, Nat.not_lt] at hname huri
  exact ⟨hname, huri⟩

theorem symbol_le_of_numberProblems (h : doc.numberProblems = []) : Utf8.size doc.symbol ≤ Terms.maxSymbol := by
  simp only [numberProblems, List.append_eq_nil_iff, Problem.when_eq_nil, decide_eq_false_iff_not, Nat.not_lt] at h
  exact h.1.1.2

theorem creators_lt_of_creatorProblems (h : doc.creatorProblems = []) : doc.creators.length < Terms.maxCreators := by
  simp only [creatorProblems, List.append_eq_nil_iff, Problem.when_eq_nil, decide_eq_false_iff_not, Nat.not_lt] at h
  exact Nat.lt_of_le_of_lt h.1.1 (by decide)

theorem hidden_le_of_hiddenProblems (h : doc.hiddenProblems = []) {x : HiddenItems} (hx : doc.hidden = some x) :
    Utf8.size x.name ≤ Terms.maxName ∧ Utf8.size x.uri ≤ Terms.maxUri := by
  rw [hiddenProblems, hx] at h
  exact size_le_of_lineProblems (List.append_eq_nil_iff.1 (List.append_eq_nil_iff.1 h).2).1

/-- A template is not longer than the lines that it makes. -/
theorem sequel_le_of_sequelProblems (h : doc.sequelProblems = []) {x : Document.Sequel} (hx : doc.sequel = some x) :
    Utf8.size x.name ≤ Terms.maxName ∧ Utf8.size x.uri ≤ Terms.maxUri := by
  rw [sequelProblems, hx] at h
  obtain ⟨hname, huri⟩ := size_le_of_lineProblems h
  simp only [MintDrop.Sequel.line, Utf8.size_append] at hname huri
  omega

/-! ### The terms -/

theorem hiddenItems_eq_ok {hidden : Option MintDrop.HiddenItems} (h : doc.hiddenItems = .ok hidden)
    {x : MintDrop.HiddenItems} (hx : x ∈ hidden) : ∃ y, doc.hidden = some y ∧ x.name = y.name ∧ x.uri = y.uri := by
  unfold hiddenItems at h
  split at h
  · cases h
    cases hx
  · rename_i y hy
    split_ifs at h
    cases h
    cases hx
    exact ⟨y, hy, rfl, rfl⟩

/-- The terms are read part by part from the document, and have no tag yet. -/
theorem terms_eq_ok (h : doc.terms now decimals = .ok terms) :
    terms.tag = "" ∧ terms.symbol = doc.symbol ∧ doc.creatorList = .ok terms.creators ∧
      doc.hiddenItems = .ok terms.hidden ∧ doc.whitelistRights decimals = .ok terms.whitelist ∧
      doc.endRule now = .ok terms.endRule ∧ terms.itemsAvailable = doc.number ∧
      terms.sequel = doc.sequel.map fun s => ⟨s.name, s.uri, s.mintsInOrder⟩ := by
  obtain ⟨goLiveDate, -, h⟩ := exists_of_bind_eq_ok h
  obtain ⟨endRule, hendRule, h⟩ := exists_of_bind_eq_ok h
  obtain ⟨hidden, hhidden, h⟩ := exists_of_bind_eq_ok h
  obtain ⟨whitelist, hwhitelist, h⟩ := exists_of_bind_eq_ok h
  obtain ⟨gatekeeper, -, h⟩ := exists_of_bind_eq_ok h
  obtain ⟨creators, hcreators, h⟩ := exists_of_bind_eq_ok h
  obtain rfl := Except.ok.inj h
  exact ⟨rfl, rfl, hcreators, hhidden, hwhitelist, hendRule, rfl, rfl⟩

/-- A document that is resolved has passed its checks, and its terms and its list of items are those of the
deployment. -/
theorem exists_of_makes_resolve (h : Makes (resolve now doc payer).run t (some (.ok d))) :
    doc.problems = [] ∧ (∃ decimals, doc.terms now decimals = .ok d.terms) ∧
      d.catalogue = doc.catalogue := by
  obtain ⟨u, t₁, t₂, -, hcheck, h⟩ := makes_andThen_ok h
  obtain ⟨payment, t₃, t₄, -, -, h⟩ := makes_andThen_ok h
  obtain ⟨terms, t₅, t₆, -, hterms, h⟩ := makes_andThen_ok h
  obtain ⟨-, hr | hr⟩ := makes_done h <;> cases hr
  exact ⟨problems_eq_nil_of_check ((makes_check hcheck).2.1 _ rfl),
    ⟨payment.decimals, (makes_check hterms).2.1 _ rfl⟩, rfl⟩

/-- The texts of a resolved document are as short as they are to be, with a tag and one more creator. -/
theorem bounded_of_makes_resolve (h : Makes (resolve now doc payer).run t (some (.ok d))) {tag : String}
    (htag : Utf8.size tag ≤ Terms.maxTag) {added : List MintDrop.Creator} (hadded : added.length ≤ 1) :
    Terms.Bounded { d.taggedTerms tag with creators := (d.taggedTerms tag).creators ++ added } := by
  obtain ⟨hproblems, ⟨decimals, hterms⟩, -⟩ := exists_of_makes_resolve h
  obtain ⟨-, hsymbol, hcreators, hhidden, -, -, -, hsequel⟩ := terms_eq_ok hterms
  simp only [problems, List.append_eq_nil_iff] at hproblems
  obtain ⟨⟨⟨⟨⟨⟨⟨⟨hnumbers, hcreatorList⟩, -⟩, -⟩, -⟩, -⟩, hhiddenItems⟩, htemplate⟩, -⟩ := hproblems
  refine ⟨htag, ?_, ?_, fun x hx => ?_, fun x hx => ?_⟩
  · change Utf8.size d.terms.symbol ≤ _
    rw [hsymbol]
    exact symbol_le_of_numberProblems hnumbers
  · have hroom := creators_lt_of_creatorProblems hcreatorList
    have hlength := (forall₂_of_mapM_eq_ok hcreators).length_eq
    change (d.terms.creators ++ added).length ≤ _
    rw [List.length_append]
    omega
  · obtain ⟨y, hy, hname, huri⟩ := hiddenItems_eq_ok hhidden hx
    rw [hname, huri]
    exact hidden_le_of_hiddenProblems hhiddenItems hy
  · change x ∈ d.terms.sequel at hx
    rw [hsequel] at hx
    obtain ⟨y, hy, rfl⟩ := Option.map_eq_some_iff.1 hx
    exact sequel_le_of_sequelProblems htemplate hy

end Document

end MintDrop
