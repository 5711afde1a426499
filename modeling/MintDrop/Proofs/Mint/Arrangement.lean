import Mathlib.Data.List.Nodup
import Mathlib.Tactic.Common
import MintDrop.Proofs.Except
import MintDrop.Proofs.Mint.Plan

/-!
# The arrangement of a plan

`Arranged` says what a plan is by its parts, which a context asks for independently of one another (`Parts.Fit`): the
one-time keys that burn and pay, and the approvals for them.  Every context has such a plan (`plan_arranged`), whose
operations can all be written as instructions.
-/

namespace MintDrop

/-- The token account that an instruction creates. -/
def Instruction.holderAccount? (i : Instruction) : Option Address :=
  if i.program = Address.associatedTokenProgram then i.accounts[1]?.map (·.address) else none

namespace Mint

/-! ### Parts of plans -/

/-- The parts of a plan that only some contexts ask for. -/
structure Parts where
  /-- The one-time key that burns a whitelist token. -/
  burner : Option Keypair
  /-- The one-time key that pays in tokens. -/
  payer : Option Keypair
  burn : Option Approval
  payment : Option Approval

namespace Parts

/-- The one-time keys, in their order. -/
def keys (parts : Parts) : List Keypair := parts.burner.toList ++ parts.payer.toList

/-- The approvals, in their order. -/
def approvals (parts : Parts) : List Approval := parts.burn.toList ++ parts.payment.toList

/-- The accounts that the invocation has beside its own.  The payer comes right after the account that it pays from, the
burner after the account that it burns from and the mint of the token. -/
def remaining (programs : Derivation) (c : Context) (parts : Parts) : List AccountMeta :=
  (c.settings.whitelist.elim [] fun w =>
      .writable (programs.holderAccount c.buyer w.mint) ::
        parts.burner.elim [] fun key => [.writable w.mint, .signer key.address]) ++
    c.settings.tokenMint.elim [] fun tokenMint =>
      .writable (programs.holderAccount c.buyer tokenMint) ::
        parts.payer.elim [] fun key => [.signer key.address]

/-- Whether parts are there just if a context asks for them, with what it says of them. -/
structure Fit (programs : Derivation) (c : Context) (parts : Parts) : Prop where
  burner_iff : parts.burner.isSome ↔ ∃ w, c.settings.whitelist = some w ∧ w.mode = .burnEveryTime
  payer_iff : parts.payer.isSome ↔ c.settings.tokenMint.isSome
  burn_iff : ∀ a, parts.burn = some a ↔ c.whitelistAccountExists ∧ ∃ w key, c.settings.whitelist = some w ∧
    w.mode = .burnEveryTime ∧ parts.burner = some key ∧
      a = ⟨programs.holderAccount c.buyer w.mint, key.address, 1⟩
  payment_iff : ∀ a, parts.payment = some a ↔ ∃ tokenMint key, c.settings.tokenMint = some tokenMint ∧
    parts.payer = some key ∧ a = ⟨programs.holderAccount c.buyer tokenMint, key.address, c.settings.price⟩

end Parts

/-- Whether one-time keys are at addresses of their own, which no account of an invocation has that does not sign. -/
def Fresh (keys : List Keypair) (accounts : List AccountMeta) : Prop :=
  (keys.map (·.address)).Nodup ∧ ∀ key ∈ keys, ∀ account ∈ accounts, account.address = key.address → account.isSigner

/-- Whether a plan is put together from parts for a context, with one-time keys of a supply. -/
structure Arranged (programs : Derivation) (c : Context) (mint : Keypair) (keys : Nat → Keypair) (parts : Parts)
    (p : Plan) : Prop where
  /-- The new token comes first, and each approval is given before the one invocation and ended after it. -/
  ops_eq : p.ops =
    [.create c.buyer mint.address c.mintRent, .initializeMint mint.address c.buyer,
        .createHolderAccount c.buyer c.buyer mint.address,
        .mintUnit mint.address (programs.holderAccount c.buyer mint.address) c.buyer] ++
      parts.approvals.map (·.grant c.buyer) ++
      .invoke (mintAccounts programs c mint.address) (programs.recordAuthority c.settings.record).2
        (parts.remaining programs c) :: parts.approvals.map (·.withdrawal c.buyer)
  throwaways_eq : p.throwaways = parts.keys
  keys_eq : parts.keys = (List.range parts.keys.length).map keys
  signerAddresses_eq : p.signerAddresses = c.buyer :: mint.address :: parts.keys.map (·.address)
  delegate_mem : ∀ a ∈ parts.approvals, a.delegate ∈ parts.keys.map (·.address)
  /-- Each one-time key signs the invocation as one more account of it, which is not changed. -/
  signing_eq : (parts.remaining programs c).filter (·.isSigner) = parts.keys.map fun key => .signer key.address
  /-- A one-time key of its own is one account of the invocation. -/
  count_eq_one : Fresh parts.keys (parts.remaining programs c) → ∀ key ∈ parts.keys,
    ((parts.remaining programs c).map (·.address)).count key.address = 1
  /-- The operations are written for their programs, and the unit is minted into the token account that is created. -/
  instructions_eq : ∃ instructions, p.instructions = .ok instructions ∧
    instructions.map (·.program) =
      [Address.systemProgram, Address.tokenProgram, Address.associatedTokenProgram, Address.tokenProgram] ++
        parts.approvals.map (fun _ => Address.tokenProgram) ++
        programs.recordProgram :: parts.approvals.map (fun _ => Address.tokenProgram) ∧
    instructions[2]?.bind Instruction.holderAccount? = some (programs.holderAccount c.buyer mint.address)

/-! ### One-time keys among the accounts -/

/-- Keys of their own that sign as the accounts of a list are accounts of it once. -/
theorem count_address_of_fresh {keys : List Keypair} {accounts : List AccountMeta}
    (hsigning : accounts.filter (·.isSigner) = keys.map fun key => .signer key.address) (h : Fresh keys accounts)
    {key : Keypair} (hkey : key ∈ keys) : (accounts.map (·.address)).count key.address = 1 := by
  have hsigner : (accounts.filter (·.isSigner)).countP (·.address == key.address) = 1 := by
    rw [hsigning, List.countP_map]
    have honce := List.count_eq_one_of_mem h.1 (List.mem_map_of_mem hkey)
    rw [List.count, List.countP_map] at honce
    exact honce
  have hother : (accounts.filter fun account => !account.isSigner).countP (·.address == key.address) = 0 := by
    refine List.countP_eq_zero.2 fun account haccount haddress => ?_
    obtain ⟨hmem, hnot⟩ := List.mem_filter.1 haccount
    have hsigns := h.2 key hkey account hmem (beq_iff_eq.1 haddress)
    rw [hsigns] at hnot
    cases hnot
  rw [List.count, List.countP_map]
  refine (List.countP_eq_countP_filter_add accounts _ (·.isSigner)).trans ?_
  exact congrArg₂ (· + ·) hsigner hother

/-! ### Instructions -/

/-- Only the programs of the tokens matter to where an owner's tokens are held. -/
theorem holderAccount_congr {d d' : Derivation} (htoken : d.tokenProgram = d'.tokenProgram)
    (hassociated : d.associatedTokenProgram = d'.associatedTokenProgram) (owner mint : Address) :
    d.holderAccount owner mint = d'.holderAccount owner mint := by
  cases d
  cases d'
  cases htoken
  cases hassociated
  rfl

/-- The token account that is created is the one that a plan derives, whatever its record program. -/
theorem holderAccount?_createHolderAccount (program payer owner mint : Address) :
    (Token.createHolderAccount Address.tokenProgram payer owner mint).holderAccount? =
      some ((Derivation.standard program).holderAccount owner mint) := by
  rw [Instruction.holderAccount?, Token.createHolderAccount, if_pos rfl]
  refine congrArg some (holderAccount_congr ?_ ?_ owner mint)
  · simp only [Derivation.standard]
  · simp only [Derivation.standard]

theorem instruction_tokenProgram (accounts : List AccountMeta) (data : Bytes) :
    Token.instruction Address.tokenProgram accounts data = .ok ⟨Address.tokenProgram, accounts, data⟩ := if_pos rfl

/-- The program that an operation is for. -/
def Op.program (program : Address) : Op → Address
  | .create .. => Address.systemProgram
  | .createHolderAccount .. => Address.associatedTokenProgram
  | .initializeMint .. | .mintUnit .. | .approveDelegate .. | .revokeDelegate .. => Address.tokenProgram
  | .invoke .. => program

/-- Every operation can be written for the token program. -/
theorem exists_instruction (program : Address) (op : Op) :
    ∃ i, op.instruction program Address.tokenProgram = .ok i ∧ i.program = op.program program := by
  cases op with
  | create | invoke => exact ⟨_, rfl, rfl⟩
  | createHolderAccount =>
      refine ⟨_, rfl, ?_⟩
      rw [Token.createHolderAccount, Op.program]
  | initializeMint | mintUnit | approveDelegate | revokeDelegate =>
      simp only [Op.instruction, Token.initializeMint, Token.mintTo, Token.approve, Token.revoke,
        instruction_tokenProgram, Op.program]
      exact ⟨_, rfl, by dsimp only⟩

theorem exists_instructions {p : Plan} (h : p.tokenProgram = Address.tokenProgram) :
    ∃ is, p.instructions = .ok is ∧ is.map (·.program) = p.ops.map (Op.program p.program) := by
  rw [Plan.instructions, h]
  induction p.ops with
  | nil => exact ⟨[], rfl, rfl⟩
  | cons op ops ih =>
      obtain ⟨i, hi, hprogram⟩ := exists_instruction p.program op
      obtain ⟨is, his, hprograms⟩ := ih
      refine ⟨i :: is, ?_, congrArg₂ List.cons hprogram hprograms⟩
      rw [List.mapM_cons, hi, his]
      rfl

/-! ### The parts of a context -/

section

variable (programs : Derivation) (c : Context) (keys : Nat → Keypair)

/-- The parts that a context asks for. -/
def partsOf : Parts where
  burner := if c.burns then some (keys 0) else none
  payer := c.settings.tokenMint.map fun _ => keys c.burners
  burn := burnApproval? programs keys c
  payment := paymentApproval? programs keys c

variable {programs c keys}

theorem burns_iff : c.burns ↔ ∃ w, c.settings.whitelist = some w ∧ w.mode = .burnEveryTime := by
  simp [Context.burns, Option.any_eq_true]

theorem fit_partsOf : (partsOf programs c keys).Fit programs c := by
  refine ⟨?_, ?_, fun a => ?_, fun a => ?_⟩
  · rw [← burns_iff]
    cases h : c.burns <;> simp [partsOf, h]
  · simp [partsOf]
  · cases hw : c.settings.whitelist with
    | none => simp [partsOf, burnApproval?, hw]
    | some w =>
        cases hmode : w.mode <;> cases hexists : c.whitelistAccountExists <;>
          simp [partsOf, burnApproval?, Context.burns, hw, hmode, hexists, @eq_comm _ a]
  · cases ht : c.settings.tokenMint <;> simp [partsOf, paymentApproval?, ht, @eq_comm _ a]

theorem keys_partsOf : (partsOf programs c keys).keys = (List.range c.throwawayCount).map keys := by
  cases hburns : c.burns <;> cases ht : c.settings.tokenMint <;>
    simp [Parts.keys, partsOf, Context.throwawayCount, Context.burners, hburns, ht, List.range_succ]

theorem remaining_partsOf : (partsOf programs c keys).remaining programs c =
    whitelistAccounts programs keys c ++ paymentAccounts programs keys c := by
  cases hw : c.settings.whitelist <;> cases ht : c.settings.tokenMint <;> cases hburns : c.burns <;>
    simp [Parts.remaining, partsOf, whitelistAccounts, paymentAccounts, Context.burners, hw, ht, hburns]

theorem delegate_mem_of_fit {parts : Parts} (h : parts.Fit programs c) {a : Approval} (ha : a ∈ parts.approvals) :
    a.delegate ∈ parts.keys.map (·.address) := by
  rcases List.mem_append.1 ha with ha | ha
  · obtain ⟨-, w, key, -, -, hkey, rfl⟩ := (h.burn_iff a).1 (Option.mem_toList.1 ha)
    exact List.mem_map_of_mem (List.mem_append_left _ (Option.mem_toList.2 hkey))
  · obtain ⟨tokenMint, key, -, hkey, rfl⟩ := (h.payment_iff a).1 (Option.mem_toList.1 ha)
    exact List.mem_map_of_mem (List.mem_append_right _ (Option.mem_toList.2 hkey))

theorem instructions_planned {program : Address} {mint : Keypair} :
    ∃ is, (planned (.standard program) keys c mint).instructions = .ok is ∧
      is.map (·.program) =
        [Address.systemProgram, Address.tokenProgram, Address.associatedTokenProgram, Address.tokenProgram] ++
          (approvals (.standard program) keys c).map (fun _ => Address.tokenProgram) ++
          program :: (approvals (.standard program) keys c).map (fun _ => Address.tokenProgram) ∧
      is[2]?.bind Instruction.holderAccount? =
        some ((Derivation.standard program).holderAccount c.buyer mint.address) := by
  have htoken : (planned (.standard program) keys c mint).tokenProgram = Address.tokenProgram := by
    rw [planned, Derivation.standard]
  obtain ⟨is, his, hprograms⟩ := exists_instructions htoken
  refine ⟨is, his, hprograms.trans ?_, ?_⟩
  · simp only [planned, newTokenOps, invokeOp, Approval.grant, Approval.withdrawal, List.map_append, List.map_cons,
      List.map_nil, List.map_map, Function.comp_def, Op.program, Derivation.standard]
  · rw [Plan.instructions, htoken] at his
    obtain ⟨i₀, is₁, -, hops₁, rfl⟩ := List.forall₂_cons_left_iff.1 (forall₂_of_mapM_eq_ok his)
    obtain ⟨i₁, is₂, -, hops₂, rfl⟩ := List.forall₂_cons_left_iff.1 hops₁
    obtain ⟨i₂, is₃, hcreate, -, rfl⟩ := List.forall₂_cons_left_iff.1 hops₂
    obtain rfl := Except.ok.inj hcreate
    rw [List.getElem?_cons_succ, List.getElem?_cons_succ, List.getElem?_cons_zero, Option.bind_some]
    exact holderAccount?_createHolderAccount program c.buyer c.buyer mint.address

end

/-- Every mint has a plan that is arranged of the parts that its context asks for. -/
theorem plan_arranged (program : Address) (c : Context) (mint : Keypair) (keys : Nat → Keypair) :
    ∃ p parts, plan (.standard program) c mint keys = .ok p ∧ Parts.Fit (.standard program) c parts ∧
      Arranged (.standard program) c mint keys parts p := by
  have hremaining := @remaining_partsOf (.standard program) c keys
  have hkeys := @keys_partsOf (.standard program) c keys
  have hsigning : ((partsOf (.standard program) c keys).remaining (.standard program) c).filter (·.isSigner) =
      (partsOf (.standard program) c keys).keys.map fun key => .signer key.address := by
    rw [hremaining, hkeys, filter_isSigner_remaining]
  refine ⟨_, partsOf (.standard program) c keys, plan_eq _ c mint keys, fit_partsOf, ?_⟩
  exact {
    ops_eq := by
      rw [hremaining]
      rfl
    throwaways_eq := hkeys.symm
    keys_eq := by simp [hkeys]
    signerAddresses_eq := by
      rw [hkeys]
      rfl
    delegate_mem := fun a ha => delegate_mem_of_fit fit_partsOf ha
    signing_eq := hsigning
    count_eq_one := fun hfresh key hkey => count_address_of_fresh hsigning hfresh hkey
    instructions_eq := instructions_planned }

end Mint

end MintDrop
