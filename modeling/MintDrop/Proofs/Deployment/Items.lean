import Mathlib.Data.List.Find
import Mathlib.Tactic.Common
import MintDrop.Deployment.Run
import MintDrop.Proofs.Text.Base58

/-!
# The progress of a deploy run

What a run does to the progress before it uploads: `fillItems` keeps the items that are there and adds unmarked
ones up to the count, unless an item is neither there nor listed (`fillItems_eq_error_iff`).  `afterCreation` enters
the identity of the record, which is the one that is then read back (`identity_afterCreation`).
-/

namespace MintDrop.Deployment

variable {d : Deployment} {items items' : Items} {index left : ℕ}

/-! ### Filling -/

theorem any_insert_fresh {i : UInt32} {name uri : String} {f : Item → Bool} (hf : f (.fresh name uri) = false)
    (h : items.contains i = false) (j : UInt32) :
    ((items.insert i (.fresh name uri)).get? j).any f = (items.get? j).any f := by
  rw [Items.get?_insert]
  split_ifs with hj
  · have hnone : items.get? i = none := Option.not_isSome_iff_eq_none.1 (Bool.eq_false_iff.1 h)
    rw [hj, hnone]
    exact hf
  · rfl

theorem isOnChain_insert_fresh {i : UInt32} {name uri : String} (h : items.contains i = false) (j : UInt32) :
    (items.insert i (.fresh name uri)).isOnChain j = items.isOnChain j := any_insert_fresh rfl h j

theorem get?_insert_of_not_contains {i j : UInt32} {item item' : Item} (h : items.contains i = false)
    (hj : items.get? j = some item) : (items.insert i item').get? j = some item := by
  rw [Items.get?_insert, if_neg, hj]
  rintro rfl
  rw [Items.contains, hj] at h
  cases h

/-- Filling keeps the items that are there and the marks, and adds the items that are missing. -/
theorem fillItems_eq_ok (h : fillItems d index left items = .ok items') :
    (∀ i item, items.get? i = some item → items'.get? i = some item) ∧
      (∀ i, items'.isOnChain i = items.isOnChain i) ∧
      ∀ n < left, items'.contains (UInt32.ofNat (index + n)) := by
  induction left generalizing index items with
  | zero =>
      obtain rfl := Except.ok.inj h
      exact ⟨fun _ _ hi => hi, fun _ => rfl, fun n hn => absurd hn (Nat.not_lt_zero n)⟩
  | succ left ih =>
      rw [fillItems] at h
      have hnext : ∀ {mid : Items}, fillItems d (index + 1) left mid = .ok items' →
          mid.contains (UInt32.ofNat index) → ∀ n < left + 1, items'.contains (UInt32.ofNat (index + n)) := by
        intro mid hmid hfirst n hn
        obtain ⟨hkept, -, hfilled⟩ := ih hmid
        cases n with
        | zero =>
            obtain ⟨item, hitem⟩ := Option.isSome_iff_exists.1 hfirst
            exact Option.isSome_iff_exists.2 ⟨item, hkept _ _ hitem⟩
        | succ n =>
            have := hfilled n (by omega)
            rwa [Nat.add_assoc, Nat.add_comm 1 n] at this
      split_ifs at h with hcontains
      · obtain ⟨hkept, hmarks, -⟩ := ih h
        exact ⟨hkept, hmarks, hnext h hcontains⟩
      · rw [Bool.not_eq_true] at hcontains
        split at h
        · cases h
        · obtain ⟨hkept, hmarks, -⟩ := ih h
          refine ⟨fun i item hi => hkept _ _ (get?_insert_of_not_contains hcontains hi), fun i => ?_,
            hnext h ?_⟩
          · rw [hmarks, isOnChain_insert_fresh hcontains]
          · rw [Items.contains, Items.get?_insert, if_pos rfl]
            rfl

theorem toNat_toUInt32_of_lt {n : UInt64} (h : n.toNat < UInt32.size) : n.toUInt32.toNat = n.toNat := by
  rw [UInt64.toNat_toUInt32, Nat.mod_eq_of_lt h]

theorem fillItems_of_contains (h : ∀ n < left, items.contains (UInt32.ofNat (index + n))) :
    fillItems d index left items = .ok items := by
  induction left generalizing index with
  | zero => rfl
  | succ left ih =>
      have hfirst : items.contains (UInt32.ofNat index) := h 0 (Nat.succ_pos left)
      rw [fillItems, if_pos hfirst, ih]
      intro n hn
      have := h (n + 1) (Nat.succ_lt_succ hn)
      rwa [Nat.add_comm n 1, ← Nat.add_assoc] at this

/-! ### Missing items -/

/-- Whether an item is neither there nor listed nor named by a template. -/
def lacks (d : Deployment) (items : Items) (i : UInt32) : Bool := !items.contains i && (d.line? i).isNone

theorem lacks_iff {i : UInt32} : lacks d items i ↔
    items.get? i = none ∧ d.catalogue.lookup i = none ∧ d.terms.sequel = none := by
  rw [lacks, Items.contains, Deployment.line?]
  cases items.get? i <;> cases d.catalogue.lookup i <;> cases d.terms.sequel <;> simp

theorem lacks_insert_of_ne {i j : UInt32} {item : Item} (h : j ≠ i) :
    lacks d (items.insert i item) j = lacks d items j := by
  rw [lacks, lacks, Items.contains, Items.contains, Items.get?_insert, if_neg h]

/-- Filling fails at the first item that is missing, whatever was filled in before it. -/
theorem fillItems_eq_error_iff {e : Error} (hsize : index + left ≤ UInt32.size) :
    fillItems d index left items = .error e ↔
      ((List.range' index left).find? fun n => lacks d items (UInt32.ofNat n)).map
        (fun n => Error.missingItem (UInt32.ofNat n)) = some e := by
  induction left generalizing index items with
  | zero => exact ⟨fun h => (by cases h), fun h => by cases h⟩
  | succ left ih =>
      rw [fillItems, List.range'_succ, List.find?_cons]
      cases hcontains : items.contains (UInt32.ofNat index) with
      | true =>
          rw [if_pos rfl, lacks, hcontains]
          exact ih (by omega)
      | false =>
          rw [if_neg Bool.false_ne_true, lacks, hcontains]
          cases d.line? (UInt32.ofNat index) with
          | none => exact ⟨fun h => congrArg some (Except.error.inj h), fun h => congrArg Except.error (Option.some.inj h)⟩
          | some line =>
              refine (ih (by omega)).trans ?_
              -- The items that are looked at next are not the one that was filled in.
              have hlater : ∀ n ∈ List.range' (index + 1) left,
                  lacks d (items.insert (UInt32.ofNat index) (.fresh line.name line.uri)) (UInt32.ofNat n) =
                    lacks d items (UInt32.ofNat n) := by
                intro n hn
                rw [List.mem_range'_1] at hn
                refine lacks_insert_of_ne fun heq => ?_
                have := congrArg UInt32.toNat heq
                rw [UInt32.toNat_ofNat_of_lt' (by omega), UInt32.toNat_ofNat_of_lt' (by omega)] at this
                omega
              rw [List.find?_congr hlater]
              rfl

/-! ### Placeholders -/

theorem contains_placeholders {s : Sequel} {i : UInt32} (h : items.contains i) :
    (placeholders s index left items).contains i := by
  induction left generalizing index items with
  | zero => exact h
  | succ left ih =>
      refine ih ?_
      rw [Items.contains, Items.get?_insert]
      split_ifs
      · rfl
      · exact h

/-- Unless items are minted in order, a placeholder has no mark. -/
theorem isOnChain_placeholders {s : Sequel} (hs : s.mintsInOrder = false) (i : UInt32) :
    (placeholders s index left items).isOnChain i = items.isOnChain i := by
  induction left generalizing index items with
  | zero => rfl
  | succ left ih =>
      rw [placeholders, ih, Items.isOnChain, Items.isOnChain, Items.get?_insert, hs]
      split_ifs with hi
      · rw [hi]
        cases items.get? (UInt32.ofNat index) with
        | none => rfl
        | some item => simp
      · rfl

/-! ### The identity of a record -/

/-- The identity of the record at the address of a key. -/
def identityOf (key : Keypair) : Identity :=
  ⟨String.ofList (key.address.toText.toList.take tagLength), key.address⟩

variable {p p' : Progress} {id : Identity} {count : UInt32}

/-- Without an identity and without a part of one, nothing is entered. -/
theorem program_eq_of_identity_eq_none (h : p.identity = .ok none) (hpartial : p.isPartial = false) :
    p.program = ⟨none, none⟩ := by
  obtain ⟨⟨tag, address⟩, items, env, cacheName⟩ := p
  cases tag <;> cases address
  · rfl
  · cases hpartial
  · cases hpartial
  · rename_i tag address
    rw [Progress.identity] at h
    cases ha : Address.parse address <;> simp [ha, Except.map] at h

theorem afterCreation_ne_none (d : Deployment) (count : UInt32) (id : Identity) (h : p.identity = .ok none)
    (hpartial : p.isPartial = false) : afterCreation d count id p ≠ none := by
  have hprogram := program_eq_of_identity_eq_none h hpartial
  rw [afterCreation, Progress.setIdentity?, hprogram]
  cases d.terms.sequel <;> exact Option.some_ne_none _

theorem afterCreation_eq_some (h : afterCreation d count id p = some p') :
    p'.program = ⟨some id.tag, some id.address.toText⟩ ∧ p'.slot = p.slot ∧
      (p'.items = p.items ∨ ∃ s, d.terms.sequel = some s ∧ p'.items = placeholders s 0 count.toNat p.items) := by
  rw [afterCreation, Progress.setIdentity?] at h
  split_ifs at h
  · cases h
  · cases hs : d.terms.sequel with
    | none =>
        rw [hs] at h
        obtain rfl := Option.some.inj h
        exact ⟨rfl, rfl, Or.inl rfl⟩
    | some s =>
        rw [hs] at h
        obtain rfl := Option.some.inj h
        exact ⟨rfl, rfl, Or.inr ⟨s, rfl, rfl⟩⟩

/-- The identity that was entered is the one that is read back. -/
theorem identity_afterCreation (h : afterCreation d count id p = some p') : p'.identity = .ok (some id) := by
  rw [Progress.identity, (afterCreation_eq_some h).1]
  change (Address.parse id.address.toText).map _ = _
  rw [Address.parse_toText]
  rfl

end MintDrop.Deployment
