import Mathlib.Logic.Function.Basic
import Mathlib.Tactic.Common
import MintDrop.Proofs.Mint.Plan

/-!
# The delegates of token accounts

A token account has at most one delegate: an approval replaces it and a revocation takes it away (`Op.delegates`).
When a plan comes to its invocation, all of its approvals are live unless two different ones are for the same
account, which happens only to a burning whitelist and a payment whose token accounts are one
(`approvals_live_iff`).  After the plan none of its accounts has a delegate.
-/

namespace MintDrop.Mint

/-- The delegate of each token account, with the amount that it may spend. -/
abbrev Delegates := Address → Option (Address × UInt64)

/-- What an operation does to the delegates.  What an invocation does to them is not known. -/
def Op.delegates (invoked : Delegates → Delegates) : Op → Delegates → Delegates
  | .approveDelegate source delegate _ amount, ds => Function.update ds source (some (delegate, amount))
  | .revokeDelegate source _, ds => Function.update ds source none
  | .invoke .., ds => invoked ds
  | _, ds => ds

/-- The delegates after operations. -/
def Delegates.after (invoked : Delegates → Delegates) (ds : Delegates) (ops : List Op) : Delegates :=
  ops.foldl (fun ds op => op.delegates invoked ds) ds

/-- Whether an operation calls the record program. -/
def Op.isInvocation : Op → Bool
  | .invoke .. => true
  | _ => false

/-- The operations before the invocation. -/
def beforeInvocation (ops : List Op) : List Op := ops.takeWhile (!·.isInvocation)

/-- Whether every approval of some operations is in force when they come to the invocation. -/
def ApprovalsLive (invoked : Delegates → Delegates) (ds : Delegates) (ops : List Op) : Prop :=
  ∀ source delegate owner amount, .approveDelegate source delegate owner amount ∈ ops →
    ds.after invoked (beforeInvocation ops) source = some (delegate, amount)

/-- Whether operations leave no delegate to an account that they have approved one for. -/
def ApprovalsOver (invoked : Delegates → Delegates) (ds : Delegates) (ops : List Op) : Prop :=
  ∀ source delegate owner amount, .approveDelegate source delegate owner amount ∈ ops →
    ds.after invoked ops source = none

section

variable {invoked : Delegates → Delegates} {ds : Delegates} {owner : Address} {as : List Approval}

theorem after_append (ops ops' : List Op) :
    ds.after invoked (ops ++ ops') = (ds.after invoked ops).after invoked ops' := List.foldl_append

/-! ### Granting and withdrawing -/

/-- Of the approvals for an account, the last one is in force. -/
theorem after_grants (source : Address) :
    ds.after invoked (as.map (·.grant owner)) source =
      ((as.reverse.find? (·.source = source)).map fun a => (a.delegate, a.amount)).or (ds source) := by
  induction as generalizing ds with
  | nil => rfl
  | cons a as ih =>
      change Delegates.after invoked (Function.update ds a.source (some (a.delegate, a.amount))) _ source = _
      rw [ih, List.reverse_cons, List.find?_append, Option.map_or, Option.or_assoc]
      congr 1
      by_cases h : a.source = source
      · subst h
        simp
      · simp [h, Function.update_of_ne (Ne.symm h)]

/-- All of some approvals are in force after them just if no two different ones are for the same account. -/
theorem grants_live_iff :
    (∀ a ∈ as, ds.after invoked (as.map (·.grant owner)) a.source = some (a.delegate, a.amount)) ↔
      ∀ a ∈ as, ∀ b ∈ as, a.source = b.source → a = b := by
  constructor
  · intro h a ha b hb hsource
    have hlive := (h a ha).symm.trans (hsource ▸ h b hb)
    obtain ⟨hdelegate, hamount⟩ := Prod.ext_iff.1 (Option.some.inj hlive)
    cases a
    cases b
    cases hsource
    cases hdelegate
    cases hamount
    rfl
  · intro h a ha
    rw [after_grants]
    cases hfind : as.reverse.find? (·.source = a.source) with
    | none =>
        have hne := List.find?_eq_none.1 hfind a (List.mem_reverse.2 ha)
        exact absurd (decide_eq_true rfl) hne
    | some b =>
        have hb : b ∈ as := List.mem_reverse.1 (List.mem_of_find?_eq_some hfind)
        have hsource : b.source = a.source := by simpa using List.find?_some hfind
        rw [h b hb a ha hsource]
        rfl

theorem after_withdrawals (source : Address) :
    ds.after invoked (as.map (·.withdrawal owner)) source = if source ∈ as.map (·.source) then none else ds source := by
  induction as generalizing ds with
  | nil => rfl
  | cons a as ih =>
      change Delegates.after invoked (Function.update ds a.source none) _ source = _
      rw [ih]
      by_cases h : source = a.source
      · subst h
        simp
      · simp [h]

/-! ### Plans -/

variable {programs : Derivation} {c : Context} {mint : Keypair} {keys : Nat → Keypair}

theorem not_isInvocation_of_mem_newTokenOps {mint : Address} :
    ∀ op ∈ newTokenOps programs c mint, op.isInvocation = false := by
  simp [newTokenOps, Op.isInvocation]

theorem beforeInvocation_planned :
    beforeInvocation (planned programs keys c mint).ops =
      newTokenOps programs c mint.address ++ (approvals programs keys c).map (·.grant c.buyer) := by
  refine (List.takeWhile_append_of_pos fun op hop => ?_).trans ?_
  · rcases List.mem_append.1 hop with hop | hop
    · rw [not_isInvocation_of_mem_newTokenOps op hop]
      rfl
    · obtain ⟨a, -, rfl⟩ := List.mem_map.1 hop
      rfl
  · exact List.append_nil _

theorem countP_isInvocation_planned : (planned programs keys c mint).ops.countP (·.isInvocation) = 1 := by
  have hgrants : ((approvals programs keys c).map (·.grant c.buyer)).countP (·.isInvocation) = 0 := by
    simp [List.countP_eq_zero, Approval.grant, Op.isInvocation]
  have hwithdrawals : ((approvals programs keys c).map (·.withdrawal c.buyer)).countP (·.isInvocation) = 0 := by
    simp [List.countP_eq_zero, Approval.withdrawal, Op.isInvocation]
  rw [planned, List.countP_append, List.countP_append, List.countP_cons, hgrants, hwithdrawals]
  rfl

theorem after_newTokenOps {mint : Address} : ds.after invoked (newTokenOps programs c mint) = ds := rfl

/-- The approvals of a plan are those that its context asks for. -/
theorem approveDelegate_mem_planned {source delegate owner : Address} {amount : UInt64} :
    .approveDelegate source delegate owner amount ∈ (planned programs keys c mint).ops ↔
      owner = c.buyer ∧ ⟨source, delegate, amount⟩ ∈ approvals programs keys c := by
  simp only [planned, newTokenOps, invokeOp, Approval.grant, Approval.withdrawal, List.mem_append, List.mem_cons,
    List.mem_map, List.not_mem_nil, reduceCtorEq, and_false, exists_false, or_false, false_or,
    Op.approveDelegate.injEq]
  constructor
  · rintro ⟨a, ha, rfl, rfl, rfl, rfl⟩
    exact ⟨rfl, ha⟩
  · rintro ⟨rfl, ha⟩
    exact ⟨_, ha, rfl, rfl, rfl, rfl⟩

theorem approvalsLive_planned_iff :
    ApprovalsLive invoked ds (planned programs keys c mint).ops ↔
      ∀ a ∈ approvals programs keys c, ∀ b ∈ approvals programs keys c, a.source = b.source → a = b := by
  rw [← grants_live_iff, ApprovalsLive]
  simp only [approveDelegate_mem_planned, beforeInvocation_planned, after_append, after_newTokenOps]
  constructor
  · exact fun h a ha => h a.source a.delegate c.buyer a.amount ⟨rfl, ha⟩
  · exact fun h source delegate owner amount ha => h ⟨source, delegate, amount⟩ ha.2

theorem approvalsOver_planned : ApprovalsOver invoked ds (planned programs keys c mint).ops := by
  intro source delegate owner amount hmem
  obtain ⟨-, ha⟩ := approveDelegate_mem_planned.1 hmem
  have hsource : source ∈ (approvals programs keys c).map (·.source) := List.mem_map.2 ⟨_, ha, rfl⟩
  change Delegates.after invoked ds (_ ++ _ :: (approvals programs keys c).map (·.withdrawal c.buyer)) source = none
  rw [List.append_cons, after_append, after_withdrawals, if_pos hsource]

/-! ### Accounts that two approvals are for -/

/-- Whether a whitelist token is to be burned from the account that the price is paid from, and not by the same
leave. -/
def Contended (programs : Derivation) (keys : Nat → Keypair) (c : Context) : Prop :=
  ∃ w tokenMint, c.settings.whitelist = some w ∧ w.mode = .burnEveryTime ∧ c.whitelistAccountExists ∧
    c.settings.tokenMint = some tokenMint ∧
    programs.holderAccount c.buyer w.mint = programs.holderAccount c.buyer tokenMint ∧
    ¬ ((keys 0).address = (keys 1).address ∧ c.settings.price = 1)

theorem contended_iff :
    Contended programs keys c ↔ ∃ a b, burnApproval? programs keys c = some a ∧
      paymentApproval? programs keys c = some b ∧ a.source = b.source ∧ a ≠ b := by
  constructor
  · rintro ⟨w, tokenMint, hw, hmode, hexists, htoken, hsource, hne⟩
    have hburns : c.burns = true := by simp [Context.burns, hw, hmode]
    have hburn : burnApproval? programs keys c =
        some ⟨programs.holderAccount c.buyer w.mint, (keys 0).address, 1⟩ := by
      simp [burnApproval?, hburns, hexists, hw]
    have hpayment : paymentApproval? programs keys c =
        some ⟨programs.holderAccount c.buyer tokenMint, (keys 1).address, c.settings.price⟩ := by
      simp [paymentApproval?, htoken, Context.burners, hburns]
    refine ⟨_, _, hburn, hpayment, hsource, fun h => hne ?_⟩
    exact ⟨congrArg Approval.delegate h, (congrArg Approval.amount h).symm⟩
  · rintro ⟨a, b, ha, hb, hsource, hne⟩
    unfold burnApproval? at ha
    split_ifs at ha with hasked
    obtain ⟨hburns, hexists⟩ := Bool.and_eq_true_iff.1 hasked
    obtain ⟨w, hw, rfl⟩ := Option.map_eq_some_iff.1 ha
    obtain ⟨tokenMint, htoken, rfl⟩ := Option.map_eq_some_iff.1 hb
    have hmode : w.mode = .burnEveryTime := by simpa [Context.burns, hw] using hburns
    refine ⟨w, tokenMint, hw, hmode, hexists, htoken, hsource, ?_⟩
    rintro ⟨hdelegate, hprice⟩
    refine hne ?_
    rw [Context.burners, if_pos hburns, hdelegate, hprice]
    exact congrArg (Approval.mk · _ _) hsource

theorem approvals_agree_iff :
    (∀ a ∈ approvals programs keys c, ∀ b ∈ approvals programs keys c, a.source = b.source → a = b) ↔
      ¬ Contended programs keys c := by
  rw [contended_iff, approvals]
  cases burnApproval? programs keys c with
  | none => cases paymentApproval? programs keys c <;> simp
  | some a =>
      cases paymentApproval? programs keys c with
      | none => simp
      | some b => simpa using fun h hsource => (h hsource.symm).symm

end

/-- Every mint has a plan with one invocation.  When the plan comes to it, all of its approvals are in force, with
their whole amounts, just if no account is contended: a burning whitelist whose token account is also the payment's
loses its delegate to the payment.  After the plan no account that it approved a delegate for has one. -/
theorem approvals_live_iff (programs : Derivation) (c : Context) (mint : Keypair) (keys : Nat → Keypair) :
    ∃ p, plan programs c mint keys = .ok p ∧ p.ops.countP (·.isInvocation) = 1 ∧ ∀ invoked ds,
      (ApprovalsLive invoked ds p.ops ↔ ¬ Contended programs keys c) ∧ ApprovalsOver invoked ds p.ops := by
  refine ⟨_, plan_eq programs c mint keys, ?_, fun invoked ds => ⟨?_, approvalsOver_planned⟩⟩
  · exact countP_isInvocation_planned
  · rw [approvalsLive_planned_iff, approvals_agree_iff]

/-- Settings of a record that burns a token of the mint that it is paid in. -/
def sharedMint : Context where
  settings := ⟨default, default, 2, some default, some ⟨.burnEveryTime, default, false, none⟩, none⟩
  buyer := default
  whitelistAccountExists := true
  mintRent := 0

/-- A whitelist token that is to be burned from the account that pays: the leave to burn it is gone when the plan
comes to its invocation. -/
theorem burn_approval_replaced :
    ∃ p, planFresh (.standard Address.recordProgram) sharedMint
          (fun n => .ofSeed (List.replicate 8 0 ++ UInt8.ofNat n :: List.replicate 23 0)) = .ok p ∧
      ∀ invoked ds, ¬ ApprovalsLive invoked ds p.ops := by
  refine ⟨_, plan_eq _ _ _ _, fun invoked ds => ?_⟩
  rw [approvalsLive_planned_iff, approvals_agree_iff, not_not]
  exact ⟨_, _, rfl, rfl, rfl, rfl, rfl, fun h => absurd h.2 (by decide)⟩

end MintDrop.Mint
