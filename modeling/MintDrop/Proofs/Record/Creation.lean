import MintDrop.Proofs.Record.Lines

/-!
# Transactions that create a record

`Transaction.createsRecord` tells the transactions that make an account a record from all others, by the tag of
an instruction.  An instruction that writes lines has another tag (`isCreation_addLines`).
-/

namespace MintDrop

namespace Record

/-- Whether an instruction makes an account a record. -/
def isCreation (i : Instruction) : Bool := i.data.take 8 = instructionTag "initialize_candy_machine"

variable {program record authority : Address} {i : Instruction}

theorem isCreation_create {a : CreateAccounts} {terms : Terms} (h : create program a terms = .ok i) :
    isCreation i := by
  unfold create instructionData at h
  cases hbs : Terms.codec.encode terms with
  | none =>
      rw [hbs] at h
      cases h
  | some bs =>
      rw [hbs] at h
      obtain rfl := Except.ok.inj h
      exact decide_eq_true (List.take_left' (length_instructionTag _))

theorem instructionTag_lines_ne_creation :
    instructionTag "add_config_lines" ≠ instructionTag "initialize_candy_machine" := by
  decide +kernel

theorem isCreation_addLines {start : UInt32} {lines : List Line}
    (h : addLines program record authority start lines = .ok i) : isCreation i = false := by
  obtain ⟨bs, -, rfl⟩ := addLines_eq_ok h
  refine decide_eq_false fun htag => instructionTag_lines_ne_creation ?_
  rw [← htag]
  exact (List.take_left' (length_instructionTag _)).symm

end Record

/-- Whether a transaction creates a record. -/
def Transaction.createsRecord (tx : Transaction) : Bool := tx.instructions.any Record.isCreation

end MintDrop
