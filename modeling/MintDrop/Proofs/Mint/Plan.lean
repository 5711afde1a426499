import MintDrop.Mint.Rules
import MintDrop.Proofs.Mint.Draft

/-!
# The plan of a context

`planned` is the plan of a mint in closed form: the new token, the approvals that the context asks for
(`approvals`), the invocation, and the end of each approval.  The rules make this plan of every context
(`plan_eq`); each of them adds its own part to a draft that is still open.
-/

namespace MintDrop.Mint

/-! ### Approvals -/

/-- Leave for a delegate to spend from a token account while the invocation runs. -/
structure Approval where
  source : Address
  delegate : Address
  amount : UInt64
  deriving DecidableEq

/-- The operation that gives the leave. -/
def Approval.grant (owner : Address) (a : Approval) : Op := .approveDelegate a.source a.delegate owner a.amount

/-- The operation that ends the leave. -/
def Approval.withdrawal (owner : Address) (a : Approval) : Op := .revokeDelegate a.source owner

variable (programs : Derivation) (keys : Nat → Keypair) (c : Context)

/-- Whether a whitelist token is to be burned with each mint. -/
def Context.burns : Bool := c.settings.whitelist.any (·.mode = .burnEveryTime)

/-- The number of one-time keys that the whitelist takes. -/
def Context.burners : Nat := if c.burns then 1 else 0

/-- The leave to burn a whitelist token, if one is to be burned and there is an account to burn it from. -/
def burnApproval? : Option Approval :=
  if c.burns && c.whitelistAccountExists then
    c.settings.whitelist.map fun w => ⟨programs.holderAccount c.buyer w.mint, (keys 0).address, 1⟩
  else none

/-- The leave to pay the price in tokens, if it is paid so. -/
def paymentApproval? : Option Approval :=
  c.settings.tokenMint.map fun tokenMint =>
    ⟨programs.holderAccount c.buyer tokenMint, (keys c.burners).address, c.settings.price⟩

/-- The approvals of a context, in their order. -/
def approvals : List Approval := (burnApproval? programs keys c).toList ++ (paymentApproval? programs keys c).toList

/-! ### The parts of a plan -/

/-- The operations that make the new token. -/
def newTokenOps (mint : Address) : List Op :=
  [.create c.buyer mint c.mintRent, .initializeMint mint c.buyer, .createHolderAccount c.buyer c.buyer mint,
    .mintUnit mint (programs.holderAccount c.buyer mint) c.buyer]

/-- The accounts that the whitelist adds to the invocation. -/
def whitelistAccounts : List AccountMeta :=
  match c.settings.whitelist with
  | none => []
  | some w =>
      .writable (programs.holderAccount c.buyer w.mint)
        :: if c.burns then [.writable w.mint, .signer (keys 0).address] else []

/-- The accounts that the payment adds to the invocation. -/
def paymentAccounts : List AccountMeta :=
  match c.settings.tokenMint with
  | none => []
  | some tokenMint =>
      [.writable (programs.holderAccount c.buyer tokenMint), .signer (keys c.burners).address]

/-- The accounts of the record program in the invocation. -/
def mintAccounts (mint : Address) : Record.MintAccounts where
  record := c.settings.record
  recordAuthority := (programs.recordAuthority c.settings.record).1
  payer := c.buyer
  wallet := c.settings.wallet
  metadata := programs.metadata mint
  mint
  mintAuthority := c.buyer
  updateAuthority := c.buyer
  masterEdition := programs.masterEdition mint
  metadataProgram := programs.metadataProgram
  tokenProgram := programs.tokenProgram

/-- The invocation of the record program. -/
def invokeOp (mint : Address) : Op :=
  .invoke (mintAccounts programs c mint) (programs.recordAuthority c.settings.record).2
    (whitelistAccounts programs keys c ++ paymentAccounts programs keys c)

/-- The number of one-time keys of a plan. -/
def Context.throwawayCount : Nat := c.burners + if c.settings.tokenMint.isSome then 1 else 0

/-- The plan of a context. -/
def planned (mint : Keypair) : Plan where
  program := programs.recordProgram
  tokenProgram := programs.tokenProgram
  buyer := c.buyer
  ops := newTokenOps programs c mint.address ++ (approvals programs keys c).map (·.grant c.buyer)
    ++ invokeOp programs keys c mint.address :: (approvals programs keys c).map (·.withdrawal c.buyer)
  mint
  throwaways := (List.range c.throwawayCount).map keys

/-- The accounts that sign the invocation beside its own are the one-time keys. -/
theorem filter_isSigner_remaining :
    (whitelistAccounts programs keys c ++ paymentAccounts programs keys c).filter (·.isSigner) =
      ((List.range c.throwawayCount).map keys).map fun key => .signer key.address := by
  have hwhitelist : (whitelistAccounts programs keys c).filter (·.isSigner) =
      ((List.range c.burners).map keys).map fun key => .signer key.address := by
    cases hw : c.settings.whitelist with
    | none => simp [whitelistAccounts, Context.burners, Context.burns, hw]
    | some w =>
        cases hburns : c.burns <;>
          simp [whitelistAccounts, Context.burners, hw, hburns, AccountMeta.writable, AccountMeta.signer]
  rw [List.filter_append, hwhitelist]
  cases htoken : c.settings.tokenMint <;>
    simp [paymentAccounts, Context.throwawayCount, htoken, List.range_succ, AccountMeta.writable, AccountMeta.signer]

/-! ### What the rules add -/

open Plan.Draft (push addAccount approveScoped)

variable {programs keys c} {d : Plan.Draft}

theorem run_push {op : Op} (h : d.invocation = none) (hop : (Plan.Draft.Request.push op).isMisplaced = false) :
    (push op).run d = .ok () { d with head := d.head ++ [op] } := by
  unfold push
  rw [Plan.Draft.run_of_open h]
  cases op with
  | invoke | revokeDelegate => cases hop
  | _ => rfl

theorem run_addAccount (h : d.invocation = none) (account : AccountMeta) :
    (addAccount account).run d = .ok () { d with remaining := d.remaining ++ [account] } :=
  Plan.Draft.run_of_open h _

theorem run_addNextThrowaway (h : d.invocation = none) : (addNextThrowaway keys).run d =
    .ok (keys d.throwaways.length).address { d with throwaways := d.throwaways ++ [keys d.throwaways.length] } :=
  Plan.Draft.run_of_open h _

theorem run_approveScoped (h : d.invocation = none) (source delegate : Address) (amount : UInt64) :
    (approveScoped source delegate amount).run d = .ok () { d with
      head := d.head ++ [.approveDelegate source delegate d.buyer amount]
      revokes := d.revokes ++ [.revokeDelegate source d.buyer] } :=
  Plan.Draft.run_of_open h _

theorem newToken_eq (h : d.invocation = none) : (newToken programs keys c).run d =
    .ok () { d with head := d.head ++ newTokenOps programs c d.mint.address } := by
  have hpush {op : Op} (hop : (Plan.Draft.Request.push op).isMisplaced = false) (head : List Op) :
      (push op).run { d with head } = .ok () { d with head := head ++ [op] } := run_push h hop
  unfold newToken
  rw [EStateM.run_bind]
  dsimp only [EStateM.run_get]
  rw [EStateM.run_bind, hpush rfl]
  dsimp only
  rw [EStateM.run_bind, hpush rfl]
  dsimp only
  rw [EStateM.run_bind, hpush rfl]
  dsimp only
  rw [hpush rfl]
  simp only [newTokenOps, List.append_assoc, List.cons_append, List.nil_append]

theorem whitelist_eq (h : d.invocation = none) (hbuyer : d.buyer = c.buyer) (hkeys : d.throwaways = []) :
    (whitelist programs keys c).run d = .ok () { d with
      head := d.head ++ (burnApproval? programs keys c).toList.map (·.grant c.buyer)
      revokes := d.revokes ++ (burnApproval? programs keys c).toList.map (·.withdrawal c.buyer)
      remaining := d.remaining ++ whitelistAccounts programs keys c
      throwaways := (List.range c.burners).map keys } := by
  unfold whitelist
  cases hw : c.settings.whitelist with
  | none => simp [whitelistAccounts, burnApproval?, Context.burners, Context.burns, hw, ← hkeys]
  | some w =>
      simp (disch := exact h) only [EStateM.run_bind, run_addAccount]
      cases hmode : w.mode with
      | neverBurn => simp [whitelistAccounts, burnApproval?, Context.burners, Context.burns, hw, hmode, ← hkeys]
      | burnEveryTime =>
          simp (disch := exact h) only [EStateM.run_bind, run_addAccount, run_addNextThrowaway, if_true]
          cases hexists : c.whitelistAccountExists with
          | false =>
              simp [whitelistAccounts, burnApproval?, Context.burners, Context.burns, hw, hmode, hkeys, hexists]
          | true =>
              simp (disch := exact h) only [run_approveScoped, if_true]
              simp [whitelistAccounts, burnApproval?, Context.burners, Context.burns, hw, hmode, hkeys, hexists,
                hbuyer, Approval.grant, Approval.withdrawal]

theorem paymentToken_eq (h : d.invocation = none) (hbuyer : d.buyer = c.buyer)
    (hkeys : d.throwaways = (List.range c.burners).map keys) :
    (paymentToken programs keys c).run d = .ok () { d with
      head := d.head ++ (paymentApproval? programs keys c).toList.map (·.grant c.buyer)
      revokes := d.revokes ++ (paymentApproval? programs keys c).toList.map (·.withdrawal c.buyer)
      remaining := d.remaining ++ paymentAccounts programs keys c
      throwaways := (List.range c.throwawayCount).map keys } := by
  unfold paymentToken
  cases htoken : c.settings.tokenMint with
  | none => simp [paymentAccounts, paymentApproval?, Context.throwawayCount, htoken, ← hkeys]
  | some tokenMint =>
      simp (disch := exact h) only [EStateM.run_bind, run_addNextThrowaway, run_addAccount, run_approveScoped]
      simp [paymentAccounts, paymentApproval?, Context.throwawayCount, htoken, List.range_succ, hkeys, hbuyer,
        Approval.grant, Approval.withdrawal]

theorem invocation_eq (h : d.invocation = none)
    (hremaining : d.remaining = whitelistAccounts programs keys c ++ paymentAccounts programs keys c) :
    (invocation programs keys c).run d = .ok () { d with
      invocation := some (invokeOp programs keys c d.mint.address), remaining := [] } := by
  unfold invocation
  rw [EStateM.run_bind]
  dsimp only [EStateM.run_get]
  unfold Plan.Draft.invoke
  rw [Plan.Draft.run_of_open h, invokeOp, ← hremaining]
  rfl

/-- The rules make the planned plan, of every context. -/
theorem plan_eq (programs : Derivation) (c : Context) (mint : Keypair) (keys : Nat → Keypair) :
    plan programs c mint keys = .ok (planned programs keys c mint) := by
  have hnew := @newToken_eq programs keys c
    (Plan.Draft.new programs.recordProgram programs.tokenProgram c.buyer mint) rfl
  simp only [plan, rules, List.forM_eq_forM, List.forM_cons, List.forM_nil, EStateM.run_bind, hnew]
  rw [whitelist_eq rfl rfl rfl]
  dsimp only
  rw [paymentToken_eq rfl rfl rfl]
  dsimp only
  rw [invocation_eq rfl rfl]
  simp [planned, approvals, Plan.Draft.finish, Plan.Draft.new]

end MintDrop.Mint
