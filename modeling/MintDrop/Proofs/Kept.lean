import Mathlib.Data.List.Induction
import Mathlib.Logic.Function.Basic
import MintDrop.Proofs.Trace

/-!
# What a store keeps

`Kept.Honest` says that the replies of a trace are those of a store that gives back what was saved last, and
`Kept.after` is what it then keeps: of a slot, the progress that was saved last (`after_eq_lastSaved`).
-/

namespace MintDrop

/-- What a store keeps: the progress of each slot. -/
abbrev Kept := Slot → Option Progress

/-- What a store keeps after an exchange: a save that succeeds replaces the progress of its slot. -/
def Exchange.kept (kept : Kept) : Exchange → Kept
  | ⟨.save slot p, .ok ()⟩ => Function.update kept slot (some (p.stamp slot))
  | _ => kept

/-- Whether a reply is one of a store that keeps this: a load fails or gives what is kept. -/
def Exchange.Honest (kept : Kept) : Exchange → Prop
  | ⟨.load slot, .ok p⟩ => p = kept slot
  | _ => True

namespace Kept

/-- A store that keeps nothing. -/
def empty : Kept := fun _ => none

/-- What a store keeps after a trace. -/
def after (kept : Kept) (t : List Exchange) : Kept := t.foldl (fun kept e => e.kept kept) kept

/-- Whether the replies of a trace are those of a store that keeps this at first. -/
def Honest (kept : Kept) : List Exchange → Prop
  | [] => True
  | e :: t => e.Honest kept ∧ Honest (e.kept kept) t

@[simp] theorem after_nil (kept : Kept) : kept.after [] = kept := rfl

@[simp] theorem after_cons (kept : Kept) (e : Exchange) (t : List Exchange) :
    kept.after (e :: t) = (e.kept kept).after t := rfl

@[simp] theorem after_append (kept : Kept) (t u : List Exchange) :
    kept.after (t ++ u) = (kept.after t).after u := List.foldl_append

/-- The answers of a ledger that confirms everything and of a store that never fails. -/
def serve (c : Call) : StateM Kept c.Reply := fun kept =>
  match c with
  | .account _ => (.ok none, kept)
  | .rent _ => (.ok 0, kept)
  | .owned _ _ => (.ok [], kept)
  | .submit _ => (.ok [], kept)
  | .load slot => (.ok (kept slot), kept)
  | .save slot p => (.ok (), Function.update kept slot (some (p.stamp slot)))
  | .turn others => (⟨0, others.succ_pos⟩, kept)

theorem honest_transcript_serve {α : Type} (s : Script α) (kept : Kept) :
    kept.Honest (s.transcript serve kept).1 := by
  induction s generalizing kept with
  | done a => trivial
  | call c next ih =>
      rw [Script.transcript]
      cases c with
      | turn others => exact ih _ kept
      | load slot => exact ⟨rfl, ih _ kept⟩
      | save slot p => exact ⟨trivial, ih _ _⟩
      | account a => exact ⟨trivial, ih _ kept⟩
      | rent size => exact ⟨trivial, ih _ kept⟩
      | owned program authority => exact ⟨trivial, ih _ kept⟩
      | submit tx => exact ⟨trivial, ih _ kept⟩

theorem storeFails_transcript_serve {α : Type} (s : Script α) (kept : Kept) :
    ∀ e ∈ (s.transcript serve kept).1, e.storeFails = false := by
  induction s generalizing kept with
  | done a => exact fun _ he => by cases he
  | call c next ih =>
      rw [Script.transcript]
      cases c with
      | turn others => exact ih _ kept
      | _ => exact List.forall_mem_cons.2 ⟨rfl, ih _ _⟩

end Kept

/-! ### What was saved last -/

/-- The progress that was saved last in a trace. -/
def lastSaved? (t : List Exchange) : Option Progress := (t.filterMap Exchange.saved?).getLast?

/-- Whether the saves of a trace are all to one slot. -/
def SavesTo (slot : Slot) (t : List Exchange) : Prop :=
  ∀ e ∈ t, ∀ slot' p, e.call = .save slot' p → slot' = slot

section

variable {slot : Slot} {t u : List Exchange} {e : Exchange} {kept : Kept}

theorem lastSaved?_concat : lastSaved? (t ++ [e]) = e.saved?.or (lastSaved? t) := by
  rw [lastSaved?, List.filterMap_append, List.getLast?_append, lastSaved?]
  cases h : e.saved? <;> simp [h]

theorem savesTo_nil : SavesTo slot [] := fun _ he => by cases he

theorem savesTo_cons : SavesTo slot (e :: t) ↔
    (∀ slot' p, e.call = .save slot' p → slot' = slot) ∧ SavesTo slot t := List.forall_mem_cons

theorem savesTo_append : SavesTo slot (t ++ u) ↔ SavesTo slot t ∧ SavesTo slot u := List.forall_mem_append

theorem kept_save (kept : Kept) (slot : Slot) (p : Progress) :
    Exchange.kept kept ⟨.save slot p, .ok ()⟩ slot = some (p.stamp slot) := Function.update_self ..

theorem kept_of_saved?_eq_none (h : e.saved? = none) : e.kept kept = kept := by
  obtain ⟨c, reply⟩ := e
  cases c with
  | save slot p =>
      cases reply with
      | ok u => cases h
      | error e => rfl
  | _ => rfl

theorem kept_of_saved?_eq_some {p : Progress} (hslot : ∀ slot' p, e.call = .save slot' p → slot' = slot)
    (h : e.saved? = some p) : e.kept kept slot = some (p.stamp slot) := by
  obtain ⟨c, reply⟩ := e
  cases c with
  | save slot' p' =>
      cases reply with
      | ok u =>
          obtain rfl := Option.some.inj h
          obtain rfl := hslot _ _ rfl
          exact Function.update_self ..
      | error e => cases h
  | _ => cases h

theorem after_eq_of_saved?_eq_none (h : ∀ e ∈ t, e.saved? = none) : kept.after t = kept := by
  induction t with
  | nil => rfl
  | cons e t ih =>
      obtain ⟨he, ht⟩ := List.forall_mem_cons.1 h
      rw [Kept.after_cons, kept_of_saved?_eq_none he, ih ht]

/-- A store keeps what was saved last, or else what it kept before. -/
theorem after_eq_lastSaved (h : SavesTo slot t) :
    kept.after t slot = ((lastSaved? t).map (·.stamp slot)).or (kept slot) := by
  induction t using List.reverseRecOn with
  | nil => rfl
  | append_singleton t e ih =>
      obtain ⟨ht, he⟩ := savesTo_append.1 h
      rw [Kept.after_append, Kept.after_cons, Kept.after_nil, lastSaved?_concat]
      cases hsaved : e.saved? with
      | none =>
          rw [kept_of_saved?_eq_none hsaved]
          exact ih ht
      | some p => exact kept_of_saved?_eq_some (he e List.mem_cons_self) hsaved

/-- The saves to one slot leave what is kept of the others. -/
theorem after_of_ne {slot' : Slot} (h : SavesTo slot t) (hne : slot' ≠ slot) :
    kept.after t slot' = kept slot' := by
  induction t using List.reverseRecOn with
  | nil => rfl
  | append_singleton t e ih =>
      obtain ⟨ht, he⟩ := savesTo_append.1 h
      rw [Kept.after_append, Kept.after_cons, Kept.after_nil, ← ih ht]
      obtain ⟨c, reply⟩ := e
      cases c with
      | save slot'' p =>
          obtain rfl := he _ List.mem_cons_self slot'' p rfl
          cases reply with
          | ok u => exact Function.update_of_ne hne _ _
          | error e => rfl
      | _ => rfl

end

end MintDrop
