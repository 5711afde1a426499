import MintDrop.Mint.Plan

/-!
# Requests to a draft

A `Request` is one thing that a draft is asked to do, and `heedAll` is the draft that is left when requests come in any
order, whatever the answers.  A refusal leaves the draft as it was (`atomic_answer`).  An open draft takes each request
but the misplaced ones, a sealed one takes none (`answer_of_open`, `answer_of_sealed`); so the plan of a draft is read
off the requests that it has accepted (`finish_heedAll`).
-/

namespace MintDrop.Plan.Draft

/-- Something that a draft is asked to do. -/
inductive Request
  | push (op : Mint.Op)
  | addAccount (account : AccountMeta)
  | addThrowaway (key : Keypair)
  | approveScoped (source delegate : Address) (amount : UInt64)
  | invoke (accounts : Record.MintAccounts) (bump : UInt8)

namespace Request

/-- Whether a request is to place the invocation. -/
def isInvocation : Request → Bool
  | .invoke .. => true
  | _ => false

/-- Whether a request is to push an operation that the draft places itself. -/
def isMisplaced : Request → Bool
  | .push (.invoke ..) | .push (.revokeDelegate ..) => true
  | _ => false

/-- The operation that a request is to place before the invocation. -/
def op? (buyer : Address) : Request → Option Mint.Op
  | .push op => some op
  | .approveScoped source delegate amount => some (.approveDelegate source delegate buyer amount)
  | _ => none

/-- The operation that a request is to place after the invocation. -/
def revoke? (buyer : Address) : Request → Option Mint.Op
  | .approveScoped source .. => some (.revokeDelegate source buyer)
  | _ => none

/-- The account that a request is to give to the invocation. -/
def account? : Request → Option AccountMeta
  | .addAccount account => some account
  | _ => none

/-- The one-time key that a request is to add. -/
def key? : Request → Option Keypair
  | .addThrowaway key => some key
  | _ => none

end Request

/-- Does what a request asks for; the result is the address of a key that is added. -/
def answer : Request → Drafting (Option Address)
  | .push op => do push op; return none
  | .addAccount account => do addAccount account; return none
  | .addThrowaway key => do return some (← addThrowaway key)
  | .approveScoped source delegate amount => do approveScoped source delegate amount; return none
  | .invoke accounts bump => do invoke accounts bump; return none

/-- The draft that is left after a request, whether it is refused or not. -/
def heed (d : Draft) (r : Request) : Draft :=
  match (answer r).run d with
  | .ok _ d' => d'
  | .error _ d' => d'

/-- The draft after requests in their order. -/
def heedAll (d : Draft) (rs : List Request) : Draft := rs.foldl heed d

/-- The requests that are not refused, as they come one after the other. -/
def accepted (d : Draft) : List Request → List Request
  | [] => []
  | r :: rs =>
      match (answer r).run d with
      | .ok _ d' => r :: accepted d' rs
      | .error _ d' => accepted d' rs

/-- A draft with what requests ask of it before the invocation. -/
def extend (d : Draft) (rs : List Request) : Draft :=
  { d with
    head := d.head ++ rs.filterMap (·.op? d.buyer)
    revokes := d.revokes ++ rs.filterMap (·.revoke? d.buyer)
    remaining := d.remaining ++ rs.filterMap Request.account?
    throwaways := d.throwaways ++ rs.filterMap Request.key? }

variable {d d' : Draft} {r : Request} {rs : List Request} {α β : Type} {x : Drafting α}

/-! ### Refusals -/

/-- Nothing is done to a draft with an invocation. -/
theorem run_of_sealed (h : d.invocation.isSome) (x : Drafting α) :
    EStateM.run (do ensureOpen; x) d = .error .planSealed d := by
  unfold ensureOpen
  simp [h]

theorem run_of_open (h : d.invocation = none) (x : Drafting α) : EStateM.run (do ensureOpen; x) d = x.run d := by
  unfold ensureOpen
  simp [h]

/-- A change that leaves the draft as it was if it fails. -/
def Atomic (x : Drafting α) : Prop := ∀ ⦃d e d'⦄, x.run d = .error e d' → d' = d

theorem atomic_throw (e : Mint.Error) : Atomic (throw e : Drafting α) := fun _ _ _ h => by
  cases h
  rfl

/-- What never fails is atomic. -/
theorem atomic_of_run_eq_ok {f : Draft → α} {g : Draft → Draft} (h : ∀ d, x.run d = .ok (f d) (g d)) : Atomic x := by
  intro d e d' hrun
  rw [h] at hrun
  cases hrun

/-- The check of a draft comes before any change of it. -/
theorem Atomic.whileOpen (h : Atomic x) : Atomic (do ensureOpen; x) := by
  intro d e d' hrun
  by_cases hd : d.invocation.isSome
  · rw [run_of_sealed hd] at hrun
    cases hrun
    rfl
  · rw [run_of_open (by simpa using hd)] at hrun
    exact h hrun

theorem Atomic.andReturn (h : Atomic x) (f : α → β) : Atomic (do return f (← x)) := by
  intro d e d' hrun
  rw [EStateM.run_bind] at hrun
  cases hx : x.run d with
  | ok a d₁ => rw [hx] at hrun; cases hrun
  | error e₁ d₁ =>
      rw [hx] at hrun
      cases hrun
      exact h hx

theorem atomic_push (op : Mint.Op) : Atomic (push op) := by
  cases op with
  | invoke | revokeDelegate => exact .whileOpen (atomic_throw _)
  | _ => exact .whileOpen (atomic_of_run_eq_ok fun _ => rfl)

theorem atomic_addAccount (account : AccountMeta) : Atomic (addAccount account) :=
  .whileOpen (atomic_of_run_eq_ok fun _ => rfl)

theorem atomic_addThrowaway (key : Keypair) : Atomic (addThrowaway key) :=
  .whileOpen (atomic_of_run_eq_ok fun _ => rfl)

theorem atomic_approveScoped (source delegate : Address) (amount : UInt64) :
    Atomic (approveScoped source delegate amount) :=
  .whileOpen (atomic_of_run_eq_ok fun _ => rfl)

theorem atomic_invoke (accounts : Record.MintAccounts) (bump : UInt8) : Atomic (invoke accounts bump) :=
  .whileOpen (atomic_of_run_eq_ok fun _ => rfl)

/-- A request that is refused leaves the draft as it was. -/
theorem atomic_answer (r : Request) : Atomic (answer r) := by
  cases r with
  | push op => exact (atomic_push op).andReturn _
  | addAccount account => exact (atomic_addAccount account).andReturn _
  | addThrowaway key => exact (atomic_addThrowaway key).andReturn _
  | approveScoped source delegate amount => exact (atomic_approveScoped source delegate amount).andReturn _
  | invoke accounts bump => exact (atomic_invoke accounts bump).andReturn _

/-! ### One request -/

/-- A draft with an invocation refuses everything. -/
theorem answer_of_sealed (h : d.invocation.isSome) (r : Request) : (answer r).run d = .error .planSealed d := by
  cases r <;> simp only [answer, push, addAccount, addThrowaway, approveScoped, invoke, EStateM.run_bind,
    run_of_sealed h]

theorem answer_invoke (h : d.invocation = none) (accounts : Record.MintAccounts) (bump : UInt8) :
    (answer (.invoke accounts bump)).run d =
      .ok none { d with invocation := some (.invoke accounts bump d.remaining), remaining := [] } := by
  rw [answer, invoke, EStateM.run_bind, run_of_open h]
  rfl

/-- A draft without an invocation refuses just the misplaced requests. -/
theorem answer_of_open (h : d.invocation = none) (hr : r.isInvocation = false) :
    (answer r).run d =
      if r.isMisplaced then .error .misplacedOp d else .ok (r.key?.map (·.address)) (d.extend [r]) := by
  cases r with
  | push op =>
      have hextend : d.extend [.push op] = { d with head := d.head ++ [op] } := by
        simp [extend, Request.op?, Request.revoke?, Request.account?, Request.key?]
      unfold answer push
      rw [EStateM.run_bind, run_of_open h, hextend]
      cases op <;> rfl
  | addAccount account =>
      have hextend : d.extend [.addAccount account] = { d with remaining := d.remaining ++ [account] } := by
        simp [extend, Request.op?, Request.revoke?, Request.account?, Request.key?]
      rw [answer, addAccount, EStateM.run_bind, run_of_open h, hextend]
      rfl
  | addThrowaway key =>
      have hextend : d.extend [.addThrowaway key] = { d with throwaways := d.throwaways ++ [key] } := by
        simp [extend, Request.op?, Request.revoke?, Request.account?, Request.key?]
      rw [answer, addThrowaway, EStateM.run_bind, run_of_open h, hextend]
      rfl
  | approveScoped source delegate amount =>
      have hextend : d.extend [.approveScoped source delegate amount] = { d with
          head := d.head ++ [.approveDelegate source delegate d.buyer amount]
          revokes := d.revokes ++ [.revokeDelegate source d.buyer] } := by
        simp [extend, Request.op?, Request.revoke?, Request.account?, Request.key?]
      rw [answer, approveScoped, EStateM.run_bind, run_of_open h, hextend]
      rfl
  | invoke => cases hr

theorem heed_eq_of_ok {a : Option Address} (h : (answer r).run d = .ok a d') : d.heed r = d' := by
  rw [heed, h]

/-- A refused request is passed over. -/
theorem heed_eq_of_error {e : Mint.Error} (h : (answer r).run d = .error e d') : d.heed r = d := by
  rw [heed, h]
  exact atomic_answer r h

/-! ### Requests one after the other -/

theorem heedAll_append (rs rs' : List Request) : d.heedAll (rs ++ rs') = (d.heedAll rs).heedAll rs' :=
  List.foldl_append

theorem heedAll_cons (r : Request) (rs : List Request) : d.heedAll (r :: rs) = (d.heed r).heedAll rs := rfl

theorem accepted_append (rs rs' : List Request) :
    d.accepted (rs ++ rs') = d.accepted rs ++ (d.heedAll rs).accepted rs' := by
  induction rs generalizing d with
  | nil => rfl
  | cons r rs ih =>
      rw [List.cons_append, accepted, accepted, heedAll_cons, heed]
      split
      · rw [List.cons_append, ← ih]
      · rw [← ih]

/-- What was refused may as well not have been asked for. -/
theorem heedAll_accepted (d : Draft) (rs : List Request) : d.heedAll (d.accepted rs) = d.heedAll rs := by
  induction rs generalizing d with
  | nil => rfl
  | cons r rs ih =>
      rw [accepted, heedAll_cons]
      split
      · next h => rw [heed_eq_of_ok h, ← ih _, heedAll_cons, heed_eq_of_ok h]
      · next h => rw [heed_eq_of_error h, ← ih _, atomic_answer r h]

theorem extend_nil (d : Draft) : d.extend [] = d := by
  simp [extend]

theorem extend_extend (rs rs' : List Request) : (d.extend rs).extend rs' = d.extend (rs ++ rs') := by
  simp [extend]

/-- Until the invocation is placed, a draft takes all that is not misplaced. -/
theorem heedAll_of_open (h : d.invocation = none) (hrs : ∀ r ∈ rs, r.isInvocation = false) :
    d.accepted rs = rs.filter (!·.isMisplaced) ∧ d.heedAll rs = d.extend (rs.filter (!·.isMisplaced)) := by
  induction rs generalizing d with
  | nil => exact ⟨rfl, (extend_nil d).symm⟩
  | cons r rs ih =>
      obtain ⟨hr, hrs⟩ := List.forall_mem_cons.1 hrs
      have hanswer := answer_of_open h hr
      rw [accepted, heedAll_cons]
      cases hmisplaced : r.isMisplaced with
      | true =>
          rw [hmisplaced, if_pos rfl] at hanswer
          rw [hanswer, heed_eq_of_error hanswer, List.filter_cons_of_neg (by simp [hmisplaced])]
          exact ih h hrs
      | false =>
          rw [hmisplaced, if_neg Bool.false_ne_true] at hanswer
          obtain ⟨haccepted, hheed⟩ := ih (d := d.extend [r]) h hrs
          rw [hanswer, heed_eq_of_ok hanswer, List.filter_cons_of_pos (by simp [hmisplaced])]
          refine ⟨congrArg (r :: ·) haccepted, hheed.trans ?_⟩
          rw [extend_extend, List.singleton_append]

/-- Once the invocation is placed, a draft takes nothing any more. -/
theorem heedAll_of_sealed (h : d.invocation.isSome) (rs : List Request) :
    d.accepted rs = [] ∧ d.heedAll rs = d := by
  induction rs with
  | nil => exact ⟨rfl, rfl⟩
  | cons r rs ih =>
      have hanswer := answer_of_sealed h r
      rw [accepted, heedAll_cons, hanswer, heed_eq_of_error hanswer]
      exact ih

/-! ### The first invocation -/

theorem exists_first_invocation (h : ∃ r ∈ rs, r.isInvocation) : ∃ before accounts bump after,
    rs = before ++ .invoke accounts bump :: after ∧ ∀ r ∈ before, r.isInvocation = false := by
  obtain ⟨r, hr⟩ := Option.isSome_iff_exists.1 (List.find?_isSome.2 h)
  obtain ⟨hinvocation, before, after, rfl, hbefore⟩ := List.find?_eq_some_iff_append.1 hr
  cases r with
  | invoke accounts bump =>
      exact ⟨before, accounts, bump, after, rfl, fun r hr => by simpa using hbefore r hr⟩
  | _ => cases hinvocation

/-- The draft after requests of which the first invocation has others before and after it. -/
theorem heedAll_invoke {before : List Request} (h : d.invocation = none)
    (hbefore : ∀ r ∈ before, r.isInvocation = false) (accounts : Record.MintAccounts) (bump : UInt8)
    (after : List Request) :
    d.accepted (before ++ .invoke accounts bump :: after) =
        before.filter (!·.isMisplaced) ++ [.invoke accounts bump] ∧
      d.heedAll (before ++ .invoke accounts bump :: after) =
        { d.extend (before.filter (!·.isMisplaced)) with
          invocation := some (.invoke accounts bump (d.extend (before.filter (!·.isMisplaced))).remaining)
          remaining := [] } := by
  obtain ⟨haccepted, hheed⟩ := heedAll_of_open h hbefore
  have hanswer := answer_invoke (d := d.extend (before.filter (!·.isMisplaced))) h accounts bump
  obtain ⟨hlater, hsame⟩ := heedAll_of_sealed
    (d := { d.extend (before.filter (!·.isMisplaced)) with
      invocation := some (.invoke accounts bump (d.extend (before.filter (!·.isMisplaced))).remaining)
      remaining := [] }) rfl after
  rw [accepted_append, heedAll_append, hheed, haccepted, accepted, heedAll_cons, hanswer, heed_eq_of_ok hanswer]
  exact ⟨congrArg (_ ++ ·) (congrArg (_ :: ·) hlater), hsame⟩

/-- The requests that are refused before the invocation are for operations only. -/
theorem filterMap_filter_isMisplaced {α : Type} {f : Request → Option α}
    (hf : ∀ r, r.isMisplaced → f r = none) (rs : List Request) :
    (rs.filter (!·.isMisplaced)).filterMap f = rs.filterMap f := by
  induction rs with
  | nil => rfl
  | cons r rs ih =>
      cases hr : r.isMisplaced with
      | true => rw [List.filter_cons_of_neg (by simp [hr]), List.filterMap_cons_none (hf r hr), ih]
      | false => rw [List.filter_cons_of_pos (by simp [hr]), List.filterMap_cons, List.filterMap_cons, ih]

theorem account?_of_isMisplaced (r : Request) (h : r.isMisplaced) : r.account? = none := by
  cases r <;> first | rfl | cases h

theorem key?_of_isMisplaced (r : Request) (h : r.isMisplaced) : r.key? = none := by
  cases r <;> first | rfl | cases h

/-- A draft has an invocation once one was asked for. -/
theorem isSome_invocation_heedAll (h : d.invocation = none) (rs : List Request) :
    (d.heedAll rs).invocation.isSome = rs.any Request.isInvocation := by
  by_cases hrs : ∃ r ∈ rs, r.isInvocation
  · rw [List.any_eq_true.2 hrs]
    obtain ⟨before, accounts, bump, after, rfl, hbefore⟩ := exists_first_invocation hrs
    rw [(heedAll_invoke h hbefore accounts bump after).2]
    rfl
  · have hnone : ∀ r ∈ rs, r.isInvocation = false := fun r hr => Bool.not_eq_true _ ▸ fun hi => hrs ⟨r, hr, hi⟩
    rw [(heedAll_of_open h hnone).2, Bool.eq_false_iff.2 fun hany => hrs (List.any_eq_true.1 hany)]
    change d.invocation.isSome = false
    rw [h, Option.isSome_none]

theorem finish_eq_ok_iff : (∃ p, d.finish = .ok p) ↔ d.invocation.isSome := by
  rw [finish]
  cases d.invocation <;> simp

/-- A draft without an invocation refuses just the misplaced requests, the one for an invocation not being such. -/
theorem answer_eq_heed (h : d.invocation = none) (r : Request) :
    (answer r).run d =
      if r.isMisplaced then .error .misplacedOp d else .ok (r.key?.map (·.address)) (d.heed r) := by
  cases hr : r.isInvocation with
  | false =>
      have hanswer := answer_of_open h hr
      by_cases hmisplaced : r.isMisplaced
      · rw [hanswer, if_pos hmisplaced, if_pos hmisplaced]
      · rw [if_neg hmisplaced] at hanswer ⊢
        rw [heed_eq_of_ok hanswer, hanswer]
  | true =>
      cases r with
      | invoke accounts bump =>
          have hanswer := answer_invoke h accounts bump
          rw [heed_eq_of_ok hanswer, hanswer]
          rfl
      | _ => cases hr

/-- What a draft answers when other requests have come before, and the draft that it leaves. -/
theorem answer_heedAll (h : d.invocation = none) (before : List Request) (r : Request) :
    (answer r).run (d.heedAll before) =
      if before.any Request.isInvocation then .error .planSealed (d.heedAll before)
      else if r.isMisplaced then .error .misplacedOp (d.heedAll before)
      else .ok (r.key?.map (·.address)) (d.heedAll (before ++ [r])) := by
  have hsome := isSome_invocation_heedAll h before
  by_cases hsealed : before.any Request.isInvocation
  · rw [if_pos hsealed]
    exact answer_of_sealed (hsome.trans hsealed) r
  · have hopen : (d.heedAll before).invocation = none := by
      rw [← Option.not_isSome_iff_eq_none, hsome]
      exact hsealed
    rw [if_neg hsealed, answer_eq_heed hopen, heedAll_append]
    rfl

/-- Whatever a new draft is asked to do, in whatever order and with refused requests passed over, it comes to a plan
just if an invocation was asked for.  The plan has the operations and approvals that were accepted, in their order, then
the first invocation with the accounts that were added before it, and the revocation of each approval that was
accepted; it is signed by the buyer, the mint and the one-time keys that were added before the invocation.  Nothing is
accepted after that, and before it just the operations that a draft places itself are refused; a refusal leaves the
draft as it was.  Without the refused requests the plan is the same. -/
theorem finish_heedAll (program tokenProgram buyer : Address) (mint : Keypair) (rs : List Request) :
    let start := new program tokenProgram buyer mint
    ((∃ p, (start.heedAll rs).finish = .ok p) ↔ ∃ r ∈ rs, r.isInvocation) ∧
    (∀ before accounts bump after, rs = before ++ .invoke accounts bump :: after →
      (∀ r ∈ before, r.isInvocation = false) → ∃ p, (start.heedAll rs).finish = .ok p ∧
        p = { program, tokenProgram, buyer, mint
              ops := (start.accepted rs).filterMap (·.op? buyer) ++
                .invoke accounts bump (before.filterMap Request.account?) ::
                  (start.accepted rs).filterMap (·.revoke? buyer)
              throwaways := before.filterMap Request.key? } ∧
        p.signerAddresses = buyer :: mint.address :: (before.filterMap Request.key?).map (·.address)) ∧
    (∀ before r after, rs = before ++ r :: after → (answer r).run (start.heedAll before) =
      if before.any Request.isInvocation then .error .planSealed (start.heedAll before)
      else if r.isMisplaced then .error .misplacedOp (start.heedAll before)
      else .ok (r.key?.map (·.address)) (start.heedAll (before ++ [r]))) ∧
    (start.heedAll (start.accepted rs)).finish = (start.heedAll rs).finish := by
  intro start
  have hopen : start.invocation = none := rfl
  refine ⟨?_, ?_, fun before r _ _ => answer_heedAll hopen before r, ?_⟩
  · rw [finish_eq_ok_iff, isSome_invocation_heedAll hopen, List.any_eq_true]
  · rintro before accounts bump after rfl hbefore
    obtain ⟨haccepted, hheed⟩ := heedAll_invoke hopen hbefore accounts bump after
    refine ⟨_, ?_, rfl, rfl⟩
    rw [hheed, haccepted, ← filterMap_filter_isMisplaced account?_of_isMisplaced,
      ← filterMap_filter_isMisplaced key?_of_isMisplaced]
    simp [finish, extend, start, new, Request.op?, Request.revoke?]
  · rw [heedAll_accepted]

end MintDrop.Plan.Draft
