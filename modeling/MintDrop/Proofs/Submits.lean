import MintDrop.Proofs.Trace

/-!
# What scripts submit

`Script.SubmitsOnly P s` says that all that the script `s` submits has the property `P`, whatever it is answered
and wherever it is cut off.  There is a rule for each way of composing scripts; the rules for sequences hand on what
is known of the result of the first part.  `EachSubmitted P txs t` says of a trace that what it submits has the property
`P` together with what was confirmed before.
-/

namespace MintDrop

namespace Script

/-- Whether each transaction that a script submits has a property. -/
def SubmitsOnly {α : Type} (P : Transaction → Prop) (s : Script α) : Prop :=
  ∀ t r, Makes s t r → ∀ e ∈ t, ∀ tx, e.submitted? = some tx → P tx

variable {α β ε ε' : Type} {P Q : Transaction → Prop}

theorem SubmitsOnly.mono {s : Script α} (h : SubmitsOnly P s) (hPQ : ∀ tx, P tx → Q tx) : SubmitsOnly Q s :=
  fun t r hmakes e he tx htx => hPQ tx (h t r hmakes e he tx htx)

theorem submitsOnly_done (a : α) : SubmitsOnly P (.done a) := by
  intro t r h e he
  obtain ⟨rfl, -⟩ := makes_done h
  cases he

theorem submitsOnly_ask {c : Call} (hc : c.isTurn = false) (h : ∀ tx, c = .submit tx → P tx) :
    SubmitsOnly P (ask c) := by
  intro t r hmakes e he tx htx
  rcases makes_call hc hmakes with ⟨rfl, -⟩ | ⟨reply, t', rfl, hdone⟩
  · cases he
  · obtain ⟨rfl, -⟩ := makes_done hdone
    obtain rfl := List.mem_singleton.1 he
    refine h tx ?_
    cases c with
    | submit tx' => rw [Option.some.inj htx]
    | _ => cases htx

theorem SubmitsOnly.bind {s : Script α} {f : α → Script β} (hs : SubmitsOnly P s)
    (hf : ∀ a t, Makes s t (some a) → SubmitsOnly P (f a)) : SubmitsOnly P (s >>= f) := by
  intro t r h e he
  rcases makes_bind h with ⟨-, h⟩ | ⟨a, t₁, t₂, rfl, h₁, h₂⟩
  · exact hs _ _ h e he
  · rcases List.mem_append.1 he with he | he
    · exact hs _ _ h₁ e he
    · exact hf a _ h₁ _ _ h₂ e he

/-! ### Scripts that may fail -/

theorem SubmitsOnly.andThen {x : ExceptT ε Script α} {f : α → ExceptT ε Script β} (hx : SubmitsOnly P x.run)
    (hf : ∀ a t, Makes x.run t (some (.ok a)) → SubmitsOnly P (f a).run) : SubmitsOnly P (x >>= f).run := by
  rw [ExceptT.run_bind]
  refine hx.bind fun a t h => ?_
  cases a with
  | error e => exact submitsOnly_done _
  | ok a => exact hf a t h

theorem SubmitsOnly.orElse {x : ExceptT ε Script α} (hx : SubmitsOnly P x.run) (wrap : ε → ε') :
    SubmitsOnly P (orElse x wrap).run := by
  rw [run_orElse]
  exact hx.bind fun _ _ _ => submitsOnly_done _

theorem SubmitsOnly.lift {s : Script α} (hs : SubmitsOnly P s) :
    SubmitsOnly P (liftM s : ExceptT ε Script α).run :=
  hs.bind fun _ _ _ => submitsOnly_done _

theorem submitsOnly_check (result : Except ε α) (wrap : ε → ε') : SubmitsOnly P (check result wrap).run :=
  submitsOnly_done _

theorem submitsOnly_liftExcept (result : Except ε α) :
    SubmitsOnly P (liftM result : ExceptT ε Script α).run :=
  submitsOnly_done _

theorem submitsOnly_pure (a : α) : SubmitsOnly P (pure a : ExceptT ε Script α).run :=
  submitsOnly_done _

theorem submitsOnly_throw (e : ε) : SubmitsOnly P (throw e : ExceptT ε Script α).run :=
  submitsOnly_done _

/-- A step that may fail is followed by another one only if it has not. -/
theorem result_eq_of_makes_liftExcept {result : Except ε α} {a : α} {t : List Exchange}
    (h : Makes (liftM result : ExceptT ε Script α).run t (some (.ok a))) : result = .ok a := by
  obtain ⟨-, hr | hr⟩ := makes_liftExcept h
  · cases hr
  · exact (Option.some.inj hr).symm

/-! ### Single calls that may fail -/

theorem submitsOnly_submit {tx : Transaction} (h : P tx) : SubmitsOnly P (submit tx).run := by
  refine submitsOnly_ask (c := .submit tx) rfl fun tx' heq => ?_
  cases heq
  exact h

theorem submitsOnly_account (a : Address) : SubmitsOnly P (account a).run :=
  submitsOnly_ask (c := .account a) rfl fun _ h => by cases h

theorem submitsOnly_rent (size : ℕ) : SubmitsOnly P (rent size).run :=
  submitsOnly_ask (c := .rent size) rfl fun _ h => by cases h

theorem submitsOnly_owned (program authority : Address) : SubmitsOnly P (owned program authority).run :=
  submitsOnly_ask (c := .owned program authority) rfl fun _ h => by cases h

theorem submitsOnly_load (slot : Slot) : SubmitsOnly P (load slot).run :=
  submitsOnly_ask (c := .load slot) rfl fun _ h => by cases h

theorem submitsOnly_save (slot : Slot) (p : Progress) : SubmitsOnly P (save slot p).run :=
  submitsOnly_ask (c := .save slot p) rfl fun _ h => by cases h

end Script

/-! ### Transactions in their order -/

/-- Whether each transaction that is submitted has a property together with those that are confirmed before it. -/
def EachSubmitted (P : List Transaction → Transaction → Prop) (txs : List Transaction) : List Exchange → Prop
  | [] => True
  | e :: t => (∀ tx, e.submitted? = some tx → P txs tx) ∧ EachSubmitted P (txs ++ e.confirmed?.toList) t

section

variable {P P' : List Transaction → Transaction → Prop} {txs : List Transaction} {t u : List Exchange} {e : Exchange}

theorem confirmed_cons :
    (e :: t).filterMap Exchange.confirmed? = e.confirmed?.toList ++ t.filterMap Exchange.confirmed? := by
  rw [List.filterMap_cons]
  cases e.confirmed? <;> rfl

theorem eachSubmitted_append : EachSubmitted P txs (t ++ u) ↔
    EachSubmitted P txs t ∧ EachSubmitted P (txs ++ t.filterMap Exchange.confirmed?) u := by
  induction t generalizing txs with
  | nil => simp [EachSubmitted]
  | cons e t ih =>
      rw [List.cons_append, EachSubmitted, EachSubmitted, ih, confirmed_cons, and_assoc, List.append_assoc]

/-- The property is asked for the transactions before a trace with more and more of those that the trace confirms. -/
theorem EachSubmitted.imp (h : EachSubmitted P txs t)
    (hP : ∀ txs' tx, txs' ⊆ txs ++ t.filterMap Exchange.confirmed? → P txs' tx → P' txs' tx) :
    EachSubmitted P' txs t := by
  induction t generalizing txs with
  | nil => trivial
  | cons e t ih =>
      rw [confirmed_cons, ← List.append_assoc] at hP
      refine ⟨fun tx htx => hP txs tx ?_ (h.1 tx htx), ih h.2 hP⟩
      rw [List.append_assoc]
      exact List.subset_append_left _ _

theorem eachSubmitted_of_forall (h : ∀ e ∈ t, ∀ tx, e.submitted? = some tx → ∀ txs', txs ⊆ txs' → P txs' tx) :
    EachSubmitted P txs t := by
  induction t generalizing txs with
  | nil => trivial
  | cons e t ih =>
      obtain ⟨he, ht⟩ := List.forall_mem_cons.1 h
      refine ⟨fun tx htx => he tx htx txs (List.Subset.refl _), ih fun e he' tx htx txs' htxs => ?_⟩
      exact ht e he' tx htx txs' fun c hc => htxs (List.mem_append_left _ hc)

theorem EachSubmitted.load {slot : Slot} {reply : Except StoreError (Option Progress)} (h : EachSubmitted P txs t) :
    EachSubmitted P txs (⟨.load slot, reply⟩ :: t) := by
  refine ⟨fun _ htx => (by cases htx), ?_⟩
  change EachSubmitted P (txs ++ []) t
  rwa [List.append_nil]

theorem EachSubmitted.exists_of_mem (h : EachSubmitted P txs t) (he : e ∈ t) {tx : Transaction}
    (htx : e.submitted? = some tx) : ∃ txs', txs ⊆ txs' ∧ P txs' tx := by
  induction t generalizing txs with
  | nil => cases he
  | cons e' t ih =>
      rcases List.mem_cons.1 he with rfl | he
      · exact ⟨txs, List.Subset.refl _, h.1 tx htx⟩
      · obtain ⟨txs', htxs, hP⟩ := ih h.2 he
        exact ⟨txs', fun c hc => htxs (List.mem_append_left _ hc), hP⟩

end

end MintDrop
