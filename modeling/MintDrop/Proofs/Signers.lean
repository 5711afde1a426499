import MintDrop.Mint.Run
import MintDrop.Proofs.Deployment.History
import MintDrop.Proofs.Deployment.Submissions
import MintDrop.Proofs.Except
import MintDrop.Proofs.Mint.Plan
import MintDrop.Withdraw.Sweep

/-!
# Who signs

The ledger asks for the signatures of the payer of a transaction and of the accounts that its instructions flag
(`Transaction.requiredSigners`), and takes no others.  `Transaction.SignedExactly` says that the keys of a
transaction are those; every transaction that the programs submit is of this kind (`signedExactly_of_submitted`).
-/

namespace MintDrop

/-- The addresses that sign an instruction. -/
def Instruction.signers (i : Instruction) : List Address := (i.accounts.filter (·.isSigner)).map (·.address)

/-- The addresses whose signatures the ledger asks for. -/
def Transaction.requiredSigners (tx : Transaction) : List Address :=
  tx.payer :: tx.instructions.flatMap Instruction.signers

/-- Whether a transaction is signed by the keys that it needs and by no others. -/
def Transaction.SignedExactly (tx : Transaction) : Prop :=
  ∀ a, a ∈ tx.signers.map (·.address) ↔ a ∈ tx.requiredSigners

open Script

variable {program tokenProgram : Address} {i : Instruction}

/-! ### Instructions -/

theorem signers_createAccount (payer account : Address) (lamports space : UInt64) (owner : Address) :
    (System.createAccount payer account lamports space owner).signers = [payer, account] := rfl

theorem signers_transfer (source target : Address) (lamports : UInt64) :
    (System.transfer source target lamports).signers = [source] := rfl

theorem signers_withdraw (record authority : Address) :
    (Record.withdraw program record authority).signers = [authority] := rfl

theorem accounts_of_token {accounts : List AccountMeta} {data : Bytes}
    (h : Token.instruction program accounts data = .ok i) : i.accounts = accounts := by
  unfold Token.instruction at h
  split_ifs at h
  rw [← Except.ok.inj h]

theorem signers_create {a : Record.CreateAccounts} {terms : Terms} (h : Record.create program a terms = .ok i) :
    i.signers = [a.payer] := by
  obtain ⟨data, -, h⟩ := exists_of_bind_eq_ok h
  obtain rfl := Except.ok.inj h
  cases a.tokenMint <;>
    simp [Instruction.signers, AccountMeta.writable, AccountMeta.readOnly, AccountMeta.writableSigner]

theorem signers_addLines {record authority : Address} {start : UInt32} {lines : List Line}
    (h : Record.addLines program record authority start lines = .ok i) : i.signers = [authority] := by
  obtain ⟨data, -, h⟩ := exists_of_bind_eq_ok h
  obtain rfl := Except.ok.inj h
  rfl

theorem signers_mintItem {a : Record.MintAccounts} {bump : UInt8} {remaining : List AccountMeta}
    (h : Record.mintItem program a bump remaining = .ok i) :
    i.signers = [a.payer, a.mintAuthority, a.updateAuthority] ++
      (remaining.filter (·.isSigner)).map (·.address) := by
  obtain ⟨data, -, h⟩ := exists_of_bind_eq_ok h
  obtain rfl := Except.ok.inj h
  simp [Instruction.signers, AccountMeta.writable, AccountMeta.readOnly, AccountMeta.writableSigner,
    AccountMeta.signer]

/-! ### Mints -/

namespace Mint

/-- The addresses that sign an operation. -/
def Op.signers : Op → List Address
  | .create payer mint _ => [payer, mint]
  | .initializeMint .. => []
  | .createHolderAccount payer .. => [payer]
  | .mintUnit _ _ authority => [authority]
  | .approveDelegate _ _ owner _ => [owner]
  | .invoke accounts _ remaining =>
      [accounts.payer, accounts.mintAuthority, accounts.updateAuthority] ++
        (remaining.filter (·.isSigner)).map (·.address)
  | .revokeDelegate _ owner => [owner]

theorem signers_instruction {op : Op} (h : op.instruction program tokenProgram = .ok i) : i.signers = op.signers := by
  cases op with
  | create | createHolderAccount =>
      obtain rfl := Except.ok.inj h
      rfl
  | invoke => exact signers_mintItem h
  | initializeMint | mintUnit | approveDelegate | revokeDelegate =>
      rw [Instruction.signers, accounts_of_token h]
      rfl

theorem signers_of_mapM {ops : List Op} {instructions : List Instruction}
    (h : ops.mapM (Op.instruction program tokenProgram) = .ok instructions) :
    instructions.flatMap Instruction.signers = ops.flatMap Op.signers := by
  have hops := forall₂_of_mapM_eq_ok h
  clear h
  induction hops with
  | nil => rfl
  | cons hop _ ih => rw [List.flatMap_cons, List.flatMap_cons, signers_instruction hop, ih]

variable {programs : Derivation} {keys : Nat → Keypair} {c : Context} {mint : Keypair}

/-- The accounts that sign the invocation beside its own are those of the one-time keys. -/
theorem signers_remaining :
    ((whitelistAccounts programs keys c ++ paymentAccounts programs keys c).filter (·.isSigner)).map (·.address) =
      (planned programs keys c mint).throwaways.map (·.address) := by
  rw [filter_isSigner_remaining, List.map_map]
  rfl

/-- Only the owner signs an approval. -/
theorem eq_of_mem_signers_grants {owner a : Address} {as : List Approval}
    (h : a ∈ (as.map (·.grant owner)).flatMap Op.signers) : a = owner := by
  obtain ⟨op, hop, ha⟩ := List.mem_flatMap.1 h
  obtain ⟨approval, -, rfl⟩ := List.mem_map.1 hop
  exact List.mem_singleton.1 ha

/-- Only the owner signs the end of an approval. -/
theorem eq_of_mem_signers_withdrawals {owner a : Address} {as : List Approval}
    (h : a ∈ (as.map (·.withdrawal owner)).flatMap Op.signers) : a = owner := by
  obtain ⟨op, hop, ha⟩ := List.mem_flatMap.1 h
  obtain ⟨approval, -, rfl⟩ := List.mem_map.1 hop
  exact List.mem_singleton.1 ha

theorem mem_signers_planned {a : Address} : a ∈ (planned programs keys c mint).ops.flatMap Op.signers ↔
    a = c.buyer ∨ a = mint.address ∨ a ∈ (planned programs keys c mint).throwaways.map (·.address) := by
  have hinvoke : (invokeOp programs keys c mint.address).signers =
      [c.buyer, c.buyer, c.buyer] ++ (planned programs keys c mint).throwaways.map (·.address) :=
    congrArg ([c.buyer, c.buyer, c.buyer] ++ ·) signers_remaining
  have hnew : a ∈ (newTokenOps programs c mint.address).flatMap Op.signers ↔ a = c.buyer ∨ a = mint.address := by
    simp only [newTokenOps, List.flatMap_cons, List.flatMap_nil, Op.signers, List.cons_append, List.nil_append,
      List.mem_cons, List.not_mem_nil]
    tauto
  have hops : (planned programs keys c mint).ops = newTokenOps programs c mint.address ++
      (approvals programs keys c).map (·.grant c.buyer) ++
        invokeOp programs keys c mint.address :: (approvals programs keys c).map (·.withdrawal c.buyer) := rfl
  rw [hops, List.flatMap_append, List.flatMap_append, List.flatMap_cons, hinvoke]
  simp only [List.mem_append, hnew, List.mem_cons, List.not_mem_nil, or_false, or_self]
  constructor
  · rintro ((h | h) | h | h)
    · exact h.imp_right Or.inl
    · exact Or.inl (eq_of_mem_signers_grants h)
    · exact h.imp_right Or.inr
    · exact Or.inl (eq_of_mem_signers_withdrawals h)
  · rintro (h | h | h)
    · exact Or.inl (Or.inl (Or.inl h))
    · exact Or.inl (Or.inl (Or.inr h))
    · exact Or.inr (Or.inl (Or.inr h))

/-- A planned mint is signed by the buyer, the new mint and the one-time keys. -/
theorem signedExactly_planned {buyer : Keypair} {instructions : List Instruction} (hbuyer : c.buyer = buyer.address)
    (h : (planned programs keys c mint).instructions = .ok instructions) :
    Transaction.SignedExactly ⟨buyer.address, (planned programs keys c mint).signers buyer, instructions⟩ := by
  intro a
  have hsigners : a ∈ instructions.flatMap Instruction.signers ↔ a = buyer.address ∨ a = mint.address ∨
      a ∈ (planned programs keys c mint).throwaways.map (·.address) := by
    rw [signers_of_mapM h, mem_signers_planned, hbuyer]
  change a ∈ buyer.address :: mint.address :: (planned programs keys c mint).throwaways.map (·.address) ↔
    a ∈ buyer.address :: instructions.flatMap Instruction.signers
  rw [List.mem_cons, List.mem_cons, List.mem_cons, hsigners]
  tauto

theorem signedExactly_run (programs : Derivation) (record : Address) (buyer : Keypair) (keys : Nat → Keypair) :
    SubmitsOnly Transaction.SignedExactly (run programs record buyer keys).run := by
  refine ((submitsOnly_account _).orElse _).andThen fun data _ _ => ?_
  cases data with
  | none => exact submitsOnly_throw _
  | some data =>
      refine (submitsOnly_check _ _).andThen fun r _ _ => ?_
      extract_lets settings mintWith
      have hmint : ∀ whitelistAccountExists,
          SubmitsOnly Transaction.SignedExactly (mintWith whitelistAccountExists).run := by
        intro whitelistAccountExists
        refine ((submitsOnly_rent _).orElse _).andThen fun mintRent _ _ => ?_
        refine (submitsOnly_check _ _).andThen fun p _ hplan => ?_
        refine (submitsOnly_check _ _).andThen fun instructions _ hinstructions => ?_
        refine ((submitsOnly_submit ?_).orElse _).andThen fun _ _ _ => submitsOnly_pure _
        have hp := (makes_check hplan).2.1 _ rfl
        rw [planFresh, plan_eq] at hp
        obtain rfl := Except.ok.inj hp
        exact signedExactly_planned rfl ((makes_check hinstructions).2.1 _ rfl)
      cases settings.whitelist with
      | none => exact (submitsOnly_pure _).andThen fun _ _ _ => hmint _
      | some w =>
          refine ((submitsOnly_account _).orElse _).andThen fun found _ _ => ?_
          exact (submitsOnly_pure _).andThen fun _ _ _ => hmint _

end Mint

/-! ### Deploy runs and uploads -/

theorem Upload.signedExactly_begin {site : Site} {p : Progress} {g : Span} {tx : Transaction}
    (h : begin site p g = .ok tx) : tx.SignedExactly := by
  obtain ⟨-, items, instruction, -, hinstruction, rfl⟩ := begin_eq_ok h
  intro a
  simp [Transaction.requiredSigners, signers_addLines hinstruction]

theorem Deployment.Submission.signedExactly {d : Deployment} {site : Site} {key : Keypair} {tx : Transaction}
    (h : Submission d site key tx) : tx.SignedExactly := by
  cases h with
  | writes _ _ hbegin => exact Upload.signedExactly_begin hbegin
  | @creates lamports initialization hcreate =>
      have hrequired : (d.creation site key lamports initialization).requiredSigners =
          [site.payer.address, site.payer.address, key.address, site.payer.address] := by
        change _ :: (_ ++ (initialization.signers ++ [])) = _
        rw [signers_createAccount, signers_create hcreate]
        rfl
      intro a
      rw [hrequired]
      change a ∈ [site.payer.address, key.address] ↔ _
      grind

/-! ### Sweeps -/

namespace Sweep

variable {authority : Keypair} {charity : Option CharityShare}

theorem signedExactly_transaction (r : OwnedRecord) : (transaction program authority charity r).SignedExactly := by
  intro a
  cases charity with
  | none => simp [transaction, Transaction.requiredSigners, signers_withdraw]
  | some share =>
      by_cases hgift : 0 < donation (some share) r.lamports <;>
        simp [transaction, Transaction.requiredSigners, signers_withdraw, signers_transfer, hgift]

theorem signedExactly_withdrawAll (rs : List OwnedRecord) (report : Report) :
    SubmitsOnly Transaction.SignedExactly (withdrawAll program authority charity rs report) := by
  induction rs generalizing report with
  | nil => exact submitsOnly_done _
  | cons r rs ih =>
      rw [withdrawAll]
      split_ifs
      · exact ih _
      · refine (submitsOnly_submit (signedExactly_transaction r)).bind fun reply _ _ => ?_
        cases reply with
        | ok signature => exact ih _
        | error e => exact ih _

theorem signedExactly_run (program : Address) (authority : Keypair) (charity : Option CharityShare) (dryRun : Bool) :
    SubmitsOnly Transaction.SignedExactly (run program authority charity dryRun).run := by
  refine ((submitsOnly_owned _ _).orElse _).andThen fun records _ _ => ?_
  cases dryRun with
  | true => exact submitsOnly_pure _
  | false => exact (signedExactly_withdrawAll records _).lift

end Sweep

/-- Every transaction that a deploy run, an upload, a mint or a sweep submits is signed by the keys that it needs and by
no others, whatever the record asks for, whatever ledger and store reply and wherever the program is cut off. -/
theorem signedExactly_of_submitted :
    (∀ d site key, SubmitsOnly Transaction.SignedExactly (Deployment.run d site key).run) ∧
      (∀ site batching count p, SubmitsOnly Transaction.SignedExactly (Upload.run site batching count p).run) ∧
      (∀ programs record buyer keys,
        SubmitsOnly Transaction.SignedExactly (Mint.run programs record buyer keys).run) ∧
      ∀ program authority charity dryRun,
        SubmitsOnly Transaction.SignedExactly (Sweep.run program authority charity dryRun).run := by
  refine ⟨fun d site key => ?_, fun site batching count p => ?_, Mint.signedExactly_run, Sweep.signedExactly_run⟩
  · exact (Deployment.submitsOnly_run d site key).mono fun tx h => h.signedExactly
  · exact Upload.submitsOnly_run fun g _ tx hbegin => Upload.signedExactly_begin hbegin

/-- A record whose buyers burn a token of one mint and pay in tokens of another. -/
def burningRecord : Record where
  authority := .zero
  wallet := .zero
  tokenMint := some Address.tokenProgram
  itemsRedeemed := 0
  terms := { Deployment.oneItem.terms with price := 2, whitelist := some ⟨.burnEveryTime, .zero, false, none⟩ }

/-- The answers of a ledger that confirms everything, on which every account holds this record and every authority has
a record of ten lamports. -/
def serveBurning (c : Call) : StateM Kept c.Reply :=
  match c with
  | .account _ => pure (.ok burningRecord.encode)
  | .owned _ _ => pure (.ok [⟨.zero, 10⟩])
  | c => Kept.serve c

/-- Whether a script can succeed with transactions of these numbers of keys and instructions, each of them signed by
the keys that it needs and by no others. -/
def SignsAll {ε α : Type} (s : Script (Except ε α)) (sizes : List (ℕ × ℕ)) : Prop :=
  ∃ t a, Makes s t (some (.ok a)) ∧
    (t.filterMap Exchange.submitted?).map (fun tx => (tx.signers.length, tx.instructions.length)) = sizes ∧
      ∀ tx ∈ t.filterMap Exchange.submitted?, tx.SignedExactly

theorem signsAll_of_submitsOnly {ε α : Type} {s : Script (Except ε α)} {sizes : List (ℕ × ℕ)}
    (h : SubmitsOnly Transaction.SignedExactly s)
    (hserved : (s.transcript serveBurning .empty).2.toOption.any (fun _ => true) = true ∧
      ((s.transcript serveBurning .empty).1.filterMap Exchange.submitted?).map
        (fun tx => (tx.signers.length, tx.instructions.length)) = sizes) : SignsAll s sizes := by
  obtain ⟨a, -, hmakes⟩ := exists_makes_ok hserved.1
  refine ⟨_, a, hmakes, hserved.2, fun tx htx => ?_⟩
  obtain ⟨e, he, hsubmitted⟩ := List.mem_filterMap.1 htx
  exact h _ _ hmakes e he tx hsubmitted

/-- A deploy run creates a record and writes a line, and an upload writes two groups of one line each; a mint is signed
by two one-time keys beside the buyer and the new mint, with two approvals and their ends around the invocation; a
sweep makes a gift and a withdrawal. -/
theorem signedExactly_of_submitted_burning :
    SignsAll (Deployment.run Deployment.oneItem Deployment.oneItemSite default).run [(2, 2), (1, 1)] ∧
      SignsAll (Upload.run ⟨.zero, .zero, default⟩ ⟨1, 1, 1⟩ 2 Upload.twoFreshItems).run [(1, 1), (1, 1)] ∧
        SignsAll (Mint.run (.standard Address.recordProgram) .zero default fun _ => default).run [(4, 9)] ∧
          SignsAll (Sweep.run .zero default (some ⟨.zero, 5000, by decide⟩) false).run [(1, 2)] := by
  obtain ⟨hdeploy, hupload, hmint, hsweep⟩ := signedExactly_of_submitted
  refine ⟨signsAll_of_submitsOnly (hdeploy _ _ _) ?_, signsAll_of_submitsOnly (hupload _ _ _ _) ?_,
    signsAll_of_submitsOnly (hmint _ _ _ _) ?_, signsAll_of_submitsOnly (hsweep _ _ _ _) ?_⟩
  all_goals decide +kernel

end MintDrop
