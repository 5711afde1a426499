import MintDrop.Proofs.Record.Creation
import MintDrop.Proofs.Record.Layout

/-!
# The space of a record

`System.allocated?` and `Record.initialized?` read the two instructions that create a record: how many bytes are
reserved for which account, and which record it is made.  `Record.Creates` says so of a transaction.  The space that
is reserved for a record with lines holds them all (`Terms.lineStart_add_le_accountSize`).
-/

namespace MintDrop

/-- The account that an instruction creates, with the bytes that it reserves. -/
def System.allocated? (i : Instruction) : Option (Address × ℕ) :=
  match i.accounts with
  | _ :: account :: _ =>
      if i.program = Address.systemProgram ∧ i.data.take 4 = Bytes.ofNatLE 4 0 then
        some (account.address, Bytes.toNatLE ((i.data.drop 12).take 8))
      else none
  | _ => none

theorem System.allocated?_createAccount (payer account : Address) (lamports space : UInt64) (owner : Address) :
    allocated? (createAccount payer account lamports space owner) = some (account, space.toNat) := by
  have hspace : Bytes.toNatLE (Bytes.ofNatLE 8 space.toNat) = space.toNat := by
    rw [Bytes.toNatLE_ofNatLE]
    exact Nat.mod_eq_of_lt space.toNat_lt
  exact congrArg (fun n => some (account, n)) hspace

namespace Record

/-- The account that an instruction makes a record, with that record. -/
def initialized? (i : Instruction) : Option (Address × Record) :=
  match i.accounts, Terms.codec.decode (i.data.drop 8) with
  | account :: wallet :: authority :: _ :: _ :: _ :: remaining, .ok (terms, _) =>
      if isCreation i then
        some (account.address, ⟨authority.address, wallet.address, remaining.head?.map (·.address), 0, terms⟩)
      else none
  | _, _ => none

/-- The record that an instruction is to make an account. -/
def CreateAccounts.described (a : CreateAccounts) (terms : Terms) : Record :=
  ⟨a.authority, a.wallet, a.tokenMint, 0, terms⟩

variable {program : Address} {i : Instruction}

theorem isCreation_of_initialized? {x : Address × Record} (h : initialized? i = some x) : isCreation i := by
  unfold initialized? at h
  split at h
  · exact (Option.ite_none_right_eq_some.1 h).1
  · cases h

theorem initialized?_create {a : CreateAccounts} {terms : Terms} (h : create program a terms = .ok i) :
    initialized? i = some (a.record, a.described terms) := by
  have hcreation : isCreation i := isCreation_create h
  obtain ⟨data, hdata, hi⟩ := exists_of_bind_eq_ok h
  have hdecode : Terms.codec.decode (i.data.drop 8) = .ok (terms, []) := by
    unfold instructionData at hdata
    split at hdata
    · rename_i bs hbs
      obtain rfl := Except.ok.inj hdata
      obtain rfl := Except.ok.inj hi
      have hread := Terms.faithful_codec.reads terms bs [] hbs
      rw [List.append_nil] at hread
      rwa [List.drop_left' (length_instructionTag _)]
    · cases hdata
  have haccounts : i.accounts = [.writable a.record, .readOnly a.wallet, .readOnly a.authority,
      .writableSigner a.payer, .readOnly Address.systemProgram, .readOnly Address.rentAccount]
        ++ (a.tokenMint.map .readOnly).toList := by
    rw [← Except.ok.inj hi]
  rw [initialized?, haccounts]
  simp only [hdecode, hcreation, List.cons_append, List.nil_append, if_true]
  cases htoken : a.tokenMint <;>
    simp [CreateAccounts.described, htoken, AccountMeta.writable, AccountMeta.readOnly]

/-! ### Transactions -/

/-- Whether a transaction reserves bytes for an account and then makes it a record, and does nothing else. -/
def Creates (tx : Transaction) (account : Address) (space : ℕ) (r : Record) : Prop :=
  ∃ reservation initialization, tx.instructions = [reservation, initialization] ∧
    System.allocated? reservation = some (account, space) ∧ initialized? initialization = some (account, r)

variable {tx : Transaction} {account account' : Address} {space space' : ℕ} {r r' : Record}

theorem Creates.createsRecord (h : Creates tx account space r) : tx.createsRecord := by
  obtain ⟨reservation, initialization, hinstructions, -, hinitialized⟩ := h
  rw [Transaction.createsRecord, hinstructions, List.any_eq_true]
  exact ⟨initialization, List.mem_cons_of_mem _ List.mem_cons_self, isCreation_of_initialized? hinitialized⟩

/-- A transaction creates one record only, and in one way. -/
theorem Creates.unique (h : Creates tx account space r) (h' : Creates tx account' space' r') :
    account' = account ∧ space' = space ∧ r' = r := by
  obtain ⟨reservation, initialization, hinstructions, hallocated, hinitialized⟩ := h
  obtain ⟨reservation', initialization', hinstructions', hallocated', hinitialized'⟩ := h'
  rw [hinstructions, List.cons.injEq, List.cons.injEq] at hinstructions'
  obtain ⟨rfl, rfl, -⟩ := hinstructions'
  obtain ⟨rfl, rfl⟩ := Prod.mk.inj (Option.some.inj (hallocated.symm.trans hallocated'))
  obtain ⟨-, rfl⟩ := Prod.mk.inj (Option.some.inj (hinitialized.symm.trans hinitialized'))
  exact ⟨rfl, rfl, rfl⟩

theorem lineAt?_eq_none (h : i.data.take 8 ≠ instructionTag "add_config_lines") (record : Address) (index : UInt32) :
    lineAt? i record index = none := by
  have hwritten : written? i = none := by
    unfold written?
    split
    · rw [if_neg h]
    · rfl
  rw [lineAt?, hwritten]

/-- The tag of the instruction that writes lines does not begin like the instruction that creates an account. -/
theorem instructionTag_lines_ne_allocation :
    (instructionTag "add_config_lines").take 4 ≠ Bytes.ofNatLE 4 0 := by
  decide +kernel

theorem take_ne_of_allocated? {x : Address × ℕ} (h : System.allocated? i = some x) :
    i.data.take 8 ≠ instructionTag "add_config_lines" := by
  unfold System.allocated? at h
  split at h
  · intro htag
    refine instructionTag_lines_ne_allocation ?_
    rw [← htag, List.take_take]
    exact (Option.ite_none_right_eq_some.1 h).1.2
  · cases h

/-- What creates a record writes no line. -/
theorem Creates.not_writes (h : Creates tx account space r) {record : Address} {index : UInt32} {line : Line} :
    ¬ Writes tx record index line := by
  obtain ⟨reservation, initialization, hinstructions, hallocated, hinitialized⟩ := h
  have hcreation : initialization.data.take 8 = instructionTag "initialize_candy_machine" :=
    of_decide_eq_true (isCreation_of_initialized? hinitialized)
  have hinitialization : initialization.data.take 8 ≠ instructionTag "add_config_lines" := by
    rw [hcreation]
    exact instructionTag_lines_ne_creation.symm
  rintro ⟨i, hi, hline⟩
  rw [hinstructions] at hi
  rcases List.mem_pair.1 hi with rfl | rfl
  · rw [lineAt?_eq_none (take_ne_of_allocated? hallocated)] at hline
    cases hline
  · rw [lineAt?_eq_none hinitialization] at hline
    cases hline

end Record

/-! ### Sizes -/

namespace Terms

/-- The bytes before the line of an item. -/
def lineStart (i : ℕ) : ℕ := linesStart + 4 + i * lineSize

variable {t : Terms}

/-- The space of a record with lines holds the number of lines, the lines and a bit for each. -/
theorem lineStart_add_le_accountSize (h : t.skipsUpload = false) :
    lineStart t.itemsAvailable.toNat + (t.itemsAvailable.toNat + 7) / 8 ≤ t.accountSize := by
  rw [accountSize, h, if_neg Bool.false_ne_true, lineStart]
  dsimp only
  omega

/-- The space of a record with lines reaches to the end of each line. -/
theorem lineStart_succ_le_accountSize (h : t.skipsUpload = false) {i : ℕ} (hi : i < t.itemsAvailable.toNat) :
    lineStart (i + 1) ≤ t.accountSize := by
  have hline : (i + 1) * lineSize ≤ t.itemsAvailable.toNat * lineSize := Nat.mul_le_mul_right _ hi
  have hspace := lineStart_add_le_accountSize h
  unfold lineStart at hspace ⊢
  omega

theorem linesStart_le_accountSize (t : Terms) : linesStart ≤ t.accountSize := by
  rw [accountSize]
  split_ifs
  · exact Nat.le_refl _
  · dsimp only
    omega

/-- The size of a record whose items can be counted in 32 bits is a number of 64 bits. -/
theorem toNat_accountSize (h : t.itemsAvailable.toNat < UInt32.size) :
    (UInt64.ofNat t.accountSize).toNat = t.accountSize := by
  refine UInt64.toNat_ofNat_of_lt' ?_
  have hstart : linesStart < 1000 := by decide
  have hline : lineSize = 240 := by decide
  rw [accountSize, hline]
  simp only [UInt32.size, UInt64.size] at h ⊢
  split_ifs <;> omega

end Terms

end MintDrop
