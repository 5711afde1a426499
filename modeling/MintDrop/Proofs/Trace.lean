import Mathlib.Tactic.Common
import MintDrop.Script

/-!
# Traces of scripts

`Script.Makes s t r` says that the script `s`, under some replies and some turns of its parts, makes the calls
`t` to the ledger and to the store; `r` is its result, or `none` if it is cut off after them.  The
`makes_*` lemmas take the trace of a composed script apart, and `transcript` is the trace under given answers.
-/

namespace MintDrop

/-! ### Exchanges -/

/-- Whether a call asks for a turn, and so neither the ledger nor the store. -/
def Call.isTurn : Call → Bool
  | .turn _ => true
  | _ => false

/-- A call with its reply. -/
structure Exchange where
  call : Call
  reply : call.Reply

namespace Exchange

/-- The transaction that was submitted. -/
def submitted? : Exchange → Option Transaction
  | ⟨.submit tx, _⟩ => some tx
  | _ => none

/-- The transaction that the ledger confirmed. -/
def confirmed? : Exchange → Option Transaction
  | ⟨.submit tx, .ok _⟩ => some tx
  | _ => none

/-- The progress that the store was given to save. -/
def offered? : Exchange → Option Progress
  | ⟨.save _ p, _⟩ => some p
  | _ => none

/-- The progress that the store saved. -/
def saved? : Exchange → Option Progress
  | ⟨.save _ p, .ok ()⟩ => some p
  | _ => none

/-- Whether the store failed to load or to save. -/
def storeFails : Exchange → Bool
  | ⟨.load _, .error _⟩ => true
  | ⟨.save _ _, .error _⟩ => true
  | _ => false

theorem submitted?_of_confirmed? {e : Exchange} {tx : Transaction} (h : e.confirmed? = some tx) :
    e.submitted? = some tx := by
  obtain ⟨c, reply⟩ := e
  cases c with
  | submit tx' =>
      cases reply with
      | ok signature => exact h
      | error e => cases h
  | _ => cases h

theorem offered?_of_saved? {e : Exchange} {p : Progress} (h : e.saved? = some p) : e.offered? = some p := by
  obtain ⟨c, reply⟩ := e
  cases c with
  | save slot p' =>
      cases reply with
      | ok u => exact h
      | error e => cases h
  | _ => cases h

end Exchange

/-! ### Traces -/

namespace Script

/-- What a script may do: its calls with their replies, and its result unless it is cut off. -/
inductive Makes {α : Type} : Script α → List Exchange → Option α → Prop
  | cut (s : Script α) : Makes s [] none
  | done (a : α) : Makes (.done a) [] (some a)
  | turn {n : ℕ} {next : Fin (n + 1) → Script α} {t : List Exchange} {r : Option α} (i : Fin (n + 1)) :
      Makes (next i) t r → Makes (.call (.turn n) next) t r
  | call {c : Call} {next : c.Reply → Script α} {t : List Exchange} {r : Option α} (reply : c.Reply) :
      c.isTurn = false → Makes (next reply) t r → Makes (.call c next) (⟨c, reply⟩ :: t) r

section

variable {α β ε ε' : Type} {t : List Exchange}

theorem makes_done {a : α} {r : Option α} (h : Makes (.done a) t r) : t = [] ∧ (r = none ∨ r = some a) := by
  cases h with
  | cut => exact ⟨rfl, Or.inl rfl⟩
  | done => exact ⟨rfl, Or.inr rfl⟩

/-- A trace is also one of the script cut off at its end. -/
theorem Makes.cutOff {s : Script α} {r : Option α} (h : Makes s t r) : Makes s t none := by
  induction h with
  | cut s => exact .cut s
  | done a => exact .cut _
  | turn i _ ih => exact .turn i ih
  | call reply hc _ ih => exact .call reply hc ih

/-- A trace of a script goes on with one of the script that follows. -/
theorem Makes.bind {s : Script α} {f : α → Script β} {a : α} {t' : List Exchange} {r : Option β}
    (h : Makes s t (some a)) (h' : Makes (f a) t' r) : Makes (s >>= f) (t ++ t') r := by
  generalize hresult : some a = result at h
  induction h with
  | cut s => cases hresult
  | done b =>
      obtain rfl := Option.some.inj hresult
      exact h'
  | turn i _ ih => exact .turn i (ih hresult)
  | call reply hc _ ih => exact .call reply hc (ih hresult)

theorem makes_call {c : Call} {next : c.Reply → Script α} {r : Option α} (hc : c.isTurn = false)
    (h : Makes (.call c next) t r) :
    (t = [] ∧ r = none) ∨ ∃ reply t', t = ⟨c, reply⟩ :: t' ∧ Makes (next reply) t' r := by
  cases h with
  | cut => exact Or.inl ⟨rfl, rfl⟩
  | turn => cases hc
  | call reply _ h => exact Or.inr ⟨reply, _, rfl, h⟩

theorem makes_turn {n : ℕ} {next : Fin (n + 1) → Script α} {r : Option α}
    (h : Makes (.call (.turn n) next) t r) : (t = [] ∧ r = none) ∨ ∃ i, Makes (next i) t r := by
  cases h with
  | cut => exact Or.inl ⟨rfl, rfl⟩
  | turn i h => exact Or.inr ⟨i, h⟩
  | call _ hc => cases hc

/-- A trace of two scripts one after the other is a cut-off trace of the first, or a whole one of the first
and one of the second. -/
theorem makes_bind {s : Script α} {f : α → Script β} {r : Option β} (h : Makes (s >>= f) t r) :
    (r = none ∧ Makes s t none) ∨
      ∃ a t₁ t₂, t = t₁ ++ t₂ ∧ Makes s t₁ (some a) ∧ Makes (f a) t₂ r := by
  induction s generalizing t with
  | done a => exact Or.inr ⟨a, [], t, rfl, .done a, h⟩
  | call c next ih =>
      change Makes (.call c fun reply => next reply >>= f) t r at h
      cases h with
      | cut => exact Or.inl ⟨rfl, .cut _⟩
      | turn i h =>
          rcases ih i h with ⟨hr, h⟩ | ⟨a, t₁, t₂, ht, h₁, h₂⟩
          · exact Or.inl ⟨hr, .turn i h⟩
          · exact Or.inr ⟨a, t₁, t₂, ht, .turn i h₁, h₂⟩
      | call reply hc h =>
          rcases ih reply h with ⟨hr, h⟩ | ⟨a, t₁, t₂, rfl, h₁, h₂⟩
          · exact Or.inl ⟨hr, .call reply hc h⟩
          · exact Or.inr ⟨a, _ :: t₁, t₂, rfl, .call reply hc h₁, h₂⟩

theorem makes_ask_none {c : Call} (hc : c.isTurn = false) (h : Makes (ask c) t none) :
    t = [] ∨ ∃ reply, t = [⟨c, reply⟩] := by
  rcases makes_call hc h with ⟨rfl, -⟩ | ⟨reply, t', rfl, hdone⟩
  · exact Or.inl rfl
  · obtain ⟨rfl, -⟩ := makes_done hdone
    exact Or.inr ⟨reply, rfl⟩

theorem makes_ask_some {c : Call} {reply : c.Reply} (hc : c.isTurn = false)
    (h : Makes (ask c) t (some reply)) : t = [⟨c, reply⟩] := by
  rcases makes_call hc h with ⟨-, hr⟩ | ⟨reply', t', rfl, hdone⟩
  · cases hr
  · obtain ⟨rfl, hr | hr⟩ := makes_done hdone
    · cases hr
    · rw [Option.some.inj hr]

/-- The trace of a script that is run to its end with answers that depend on a state, and its result. -/
def transcript {σ : Type} (answer : (c : Call) → StateM σ c.Reply) : Script α → σ → List Exchange × α
  | .done a, _ => ([], a)
  | .call c next, state =>
      let (reply, state) := answer c state
      let (t, a) := transcript answer (next reply) state
      (if c.isTurn then t else ⟨c, reply⟩ :: t, a)

theorem makes_transcript {σ : Type} (answer : (c : Call) → StateM σ c.Reply) (s : Script α) (state : σ) :
    Makes s (transcript answer s state).1 (some (transcript answer s state).2) := by
  induction s generalizing state with
  | done a => exact .done a
  | call c next ih =>
      have hnext := ih (answer c state).1 (answer c state).2
      rw [transcript]
      by_cases hc : c.isTurn
      · simp only [hc, if_true]
        cases c with
        | turn others => exact .turn (answer (.turn others) state).1 hnext
        | _ => cases hc
      · simp only [hc]
        exact .call _ (Bool.eq_false_iff.2 hc) hnext

/-! ### Scripts that may fail -/

/-- A script that does not fail under given answers. -/
theorem exists_makes_ok {σ : Type} {answer : (c : Call) → StateM σ c.Reply} {s : Script (Except ε α)} {state : σ}
    {P : α → Bool} (h : (transcript answer s state).2.toOption.any P = true) :
    ∃ a, P a = true ∧ Makes s (transcript answer s state).1 (some (.ok a)) := by
  have hmakes := makes_transcript answer s state
  obtain ⟨a, ha, hP⟩ := (Option.any_eq_true _ _).1 h
  refine ⟨a, hP, ?_⟩
  cases hresult : (transcript answer s state).2 with
  | error e =>
      rw [hresult] at ha
      cases ha
  | ok a' =>
      rw [hresult] at ha hmakes
      obtain rfl := Option.some.inj ha
      exact hmakes

/-- A trace of two steps that may fail ends in the first, cut off or failed, or goes on with the second. -/
theorem makes_andThen {x : ExceptT ε Script α} {f : α → ExceptT ε Script β} {r : Option (Except ε β)}
    (h : Makes (x >>= f).run t r) :
    (r = none ∧ Makes x.run t none) ∨ (∃ e, r = some (.error e) ∧ Makes x.run t (some (.error e))) ∨
      ∃ a t₁ t₂, t = t₁ ++ t₂ ∧ Makes x.run t₁ (some (.ok a)) ∧ Makes (f a).run t₂ r := by
  rw [ExceptT.run_bind] at h
  rcases makes_bind h with h | ⟨a | a, t₁, t₂, rfl, h₁, h₂⟩
  · exact Or.inl h
  · obtain ⟨rfl, rfl | rfl⟩ := makes_done h₂
    · rw [List.append_nil]
      exact Or.inl ⟨rfl, h₁.cutOff⟩
    · rw [List.append_nil]
      exact Or.inr (Or.inl ⟨a, rfl, h₁⟩)
  · exact Or.inr (Or.inr ⟨a, t₁, t₂, rfl, h₁, h₂⟩)

theorem makes_andThen_ok {x : ExceptT ε Script α} {f : α → ExceptT ε Script β} {b : β}
    (h : Makes (x >>= f).run t (some (.ok b))) :
    ∃ a t₁ t₂, t = t₁ ++ t₂ ∧ Makes x.run t₁ (some (.ok a)) ∧ Makes (f a).run t₂ (some (.ok b)) := by
  rcases makes_andThen h with ⟨hr, -⟩ | ⟨e, hr, -⟩ | h
  · cases hr
  · cases hr
  · exact h

theorem makes_map {s : Script α} {f : α → β} {r : Option β} (h : Makes (s >>= fun a => .done (f a)) t r) :
    (r = none ∧ Makes s t none) ∨ ∃ a, r = some (f a) ∧ Makes s t (some a) := by
  rcases makes_bind h with h | ⟨a, t₁, t₂, rfl, h₁, h₂⟩
  · exact Or.inl h
  · obtain ⟨rfl, rfl | rfl⟩ := makes_done h₂
    · rw [List.append_nil]
      exact Or.inl ⟨rfl, h₁.cutOff⟩
    · rw [List.append_nil]
      exact Or.inr ⟨a, rfl, h₁⟩

theorem makes_lift {s : Script α} {r : Option (Except ε α)} (h : Makes (liftM s : ExceptT ε Script α).run t r) :
    (r = none ∧ Makes s t none) ∨ ∃ a, r = some (.ok a) ∧ Makes s t (some a) :=
  makes_map (f := Except.ok) h

section

variable {x : ExceptT ε Script α} {wrap : ε → ε'}

theorem run_orElse : (orElse x wrap).run = x.run >>= fun a => .done (a.mapError wrap) := by
  change (x.run >>= fun a => _) = _
  refine congrArg (x.run >>= ·) (funext fun a => ?_)
  cases a <;> rfl

theorem makes_orElse_none (h : Makes (orElse x wrap).run t none) : Makes x.run t none := by
  rw [run_orElse] at h
  rcases makes_map h with ⟨-, h⟩ | ⟨_, hr, -⟩
  · exact h
  · cases hr

theorem makes_orElse_some {b : Except ε' α} (h : Makes (orElse x wrap).run t (some b)) :
    ∃ a, b = a.mapError wrap ∧ Makes x.run t (some a) := by
  rw [run_orElse] at h
  rcases makes_map h with ⟨hr, -⟩ | ⟨a, hr, h⟩
  · cases hr
  · exact ⟨a, Option.some.inj hr, h⟩

theorem makes_orElse_ok {a : α} (h : Makes (orElse x wrap).run t (some (.ok a))) :
    Makes x.run t (some (.ok a)) := by
  obtain ⟨a', ha, h⟩ := makes_orElse_some h
  cases a' with
  | error e => cases ha
  | ok a' =>
      cases ha
      exact h

theorem makes_orElse_error {e : ε'} (h : Makes (orElse x wrap).run t (some (.error e))) :
    ∃ e', e = wrap e' ∧ Makes x.run t (some (.error e')) := by
  obtain ⟨a', ha, hmakes⟩ := makes_orElse_some h
  cases a' with
  | error e' =>
      cases ha
      exact ⟨e', rfl, hmakes⟩
  | ok a' => cases ha

end

theorem makes_liftExcept {result : Except ε α} {r : Option (Except ε α)}
    (h : Makes (liftM result : ExceptT ε Script α).run t r) : t = [] ∧ (r = none ∨ r = some result) :=
  makes_done h

theorem makes_check {result : Except ε α} {wrap : ε → ε'} {r : Option (Except ε' α)}
    (h : Makes (check result wrap).run t r) : t = [] ∧ (∀ a, r = some (.ok a) → result = .ok a) ∧
      ∀ e, r = some (.error e) → ∃ e', result = .error e' ∧ e = wrap e' := by
  obtain ⟨rfl, hr⟩ := makes_done h
  refine ⟨rfl, fun a ha => ?_, fun e he => ?_⟩
  · rcases hr with rfl | rfl
    · cases ha
    · cases result with
      | error e => cases ha
      | ok a' =>
          cases ha
          rfl
  · rcases hr with rfl | rfl
    · cases he
    · cases result with
      | error e' =>
          cases he
          exact ⟨e', rfl, rfl⟩
      | ok a => cases he

/-! ### Single calls that may fail -/

section

variable {slot : Slot} {p : Progress} {wrap : StoreError → ε}

theorem makes_load_none (h : Makes (orElse (load slot) wrap).run t none) :
    t = [] ∨ ∃ reply : Except StoreError (Option Progress), t = [⟨.load slot, reply⟩] :=
  makes_ask_none (c := .load slot) rfl (makes_orElse_none h)

theorem makes_load_error {e : ε} (h : Makes (orElse (load slot) wrap).run t (some (.error e))) :
    ∃ e', e = wrap e' ∧ t = [⟨.load slot, .error e'⟩] := by
  obtain ⟨e', he, h⟩ := makes_orElse_error h
  exact ⟨e', he, makes_ask_some (c := .load slot) rfl h⟩

theorem makes_load_ok {loaded : Option Progress} (h : Makes (orElse (load slot) wrap).run t (some (.ok loaded))) :
    t = [⟨.load slot, .ok loaded⟩] :=
  makes_ask_some (c := .load slot) rfl (makes_orElse_ok h)

theorem makes_save_none (h : Makes (orElse (save slot p) wrap).run t none) :
    t = [] ∨ ∃ reply : Except StoreError Unit, t = [⟨.save slot p, reply⟩] :=
  makes_ask_none (c := .save slot p) rfl (makes_orElse_none h)

theorem makes_save_error {e : ε} (h : Makes (orElse (save slot p) wrap).run t (some (.error e))) :
    ∃ e', e = wrap e' ∧ t = [⟨.save slot p, .error e'⟩] := by
  obtain ⟨e', he, h⟩ := makes_orElse_error h
  exact ⟨e', he, makes_ask_some (c := .save slot p) rfl h⟩

theorem makes_save_ok {u : Unit} (h : Makes (orElse (save slot p) wrap).run t (some (.ok u))) :
    t = [⟨.save slot p, .ok ()⟩] :=
  makes_ask_some (c := .save slot p) rfl (makes_orElse_ok h)

end

end

end Script

end MintDrop
