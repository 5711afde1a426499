import MintDrop.Proofs.Deployment.History
import MintDrop.Proofs.Deployment.Submissions
import MintDrop.Proofs.Document.Bounds
import MintDrop.Proofs.Record.Allocation

/-!
# The space that a run reserves

The only transaction by which a run creates a record reserves just the bytes that the terms in the same transaction ask
for (`creates_of_submitted`).  For a deployment that was resolved from a document these bytes hold the record, whatever
its key and its payer, and all lines that are uploaded (`account_holds_record`).
-/

namespace MintDrop

/-- The record with more creators. -/
def Record.credit (r : Record) (added : List Creator) : Record :=
  { r with terms := { r.terms with creators := r.terms.creators ++ added } }

theorem Record.terms_credit (r : Record) (added : List Creator) :
    (r.credit added).terms = { r.terms with creators := r.terms.creators ++ added } := rfl

namespace Deployment

open Script

variable {d : Deployment} {site : Site} {key : Keypair} {tx : Transaction}

/-- The record that is created at the address of a key, once items were minted from it. -/
def describedRecord (d : Deployment) (authority : Address) (key : Keypair) (redeemed : UInt64) : Record :=
  ⟨authority, d.treasury, d.tokenMint, redeemed, d.recordTerms key⟩

/-- The tag of a record is six digits in base 58. -/
theorem size_tag_le (key : Keypair) : Utf8.size (identityOf key).tag ≤ Terms.maxTag := by
  have hdigit : ∀ c ∈ key.address.toText.toList.take tagLength, (String.utf8EncodeChar c).length = 1 := by
    intro c hc
    obtain ⟨n, hn, rfl⟩ := Address.exists_digit_of_mem_toText (List.mem_of_mem_take hc)
    have hall : ∀ n < 58, (String.utf8EncodeChar (Base58.digit n)).length = 1 := by decide +kernel
    exact hall n hn
  rw [identityOf, Utf8.size_ofList hdigit]
  exact List.length_take_le _ _

/-! ### The creation -/

theorem accountSize_taggedTerms (d : Deployment) (tag : String) :
    (d.taggedTerms tag).accountSize = d.terms.accountSize := rfl

/-- The tag of a record does not change its size. -/
theorem accountSize_recordTerms (d : Deployment) (key : Keypair) :
    (d.recordTerms key).accountSize = d.terms.accountSize := accountSize_taggedTerms d _

theorem creates_creation {lamports : UInt64} {initialization : Instruction} (hcount : d.itemCount.toNat < UInt32.size)
    (h : Record.create site.program (d.createAccounts site key) (d.recordTerms key) = .ok initialization) :
    Record.Creates (d.creation site key lamports initialization) key.address d.terms.accountSize
      (d.describedRecord site.payer.address key 0) := by
  refine ⟨_, initialization, rfl, ?_, Record.initialized?_create h⟩
  rw [System.allocated?_createAccount, accountSize_recordTerms, Terms.toNat_accountSize hcount]

/-- A run makes no call if its items cannot be counted in 32 bits. -/
theorem itemCount_lt_of_submitted {t : List Exchange} {r : Option (Except Error Report)} {e : Exchange}
    (h : Makes (run d site key).run t r) (he : e ∈ t) : d.itemCount.toNat < UInt32.size := by
  by_contra hcount
  rw [run, if_pos (Nat.le_of_not_lt hcount)] at h
  obtain ⟨rfl, -⟩ := makes_done h
  cases he

/-- What a run submits to create a record reserves the bytes that the terms of the record ask for, and describes that
record. -/
theorem creates_of_submitted (d : Deployment) (site : Site) (key : Keypair) :
    SubmitsOnly (fun tx => tx.createsRecord →
      Record.Creates tx key.address d.terms.accountSize (d.describedRecord site.payer.address key 0))
      (run d site key).run := by
  intro t r h e he tx htx hcreates
  cases submitsOnly_run d site key t r h e he tx htx with
  | creates hcreate => exact creates_creation (itemCount_lt_of_submitted h he) hcreate
  | writes _ _ hbegin =>
      obtain ⟨-, items, instruction, -, hadd, rfl⟩ := Upload.begin_eq_ok hbegin
      simp [Transaction.createsRecord, Record.isCreation_addLines hadd] at hcreates

/-- The account of a record that is created for a resolved document holds the record, with an identity tag, any number
of items minted and one more creator, and has the four bytes of the number of lines left.  Each creation that a run
submits reserves just the bytes that the terms in the same transaction ask for; if items are uploaded, these hold the
number of lines, all lines and a bit for each. -/
theorem account_holds_record {now : ℤ} {doc : Document} {payer : Address} {t : List Exchange}
    (h : Makes (Document.resolve now doc payer).run t (some (.ok d))) :
    (∀ authority key redeemed added, added.length ≤ 1 →
      ∃ bs, ((d.describedRecord authority key redeemed).credit added).encode = some bs ∧
        bs.length ≤ Terms.linesStart - 4) ∧
    ∀ site key, SubmitsOnly (fun tx => tx.createsRecord → ∃ space,
      Record.Creates tx key.address space (d.describedRecord site.payer.address key 0) ∧
        space = (d.recordTerms key).accountSize ∧ Terms.linesStart ≤ space ∧
        (d.uploadsItems → Terms.lineStart d.itemCount.toNat + (d.itemCount.toNat + 7) / 8 ≤ space))
      (run d site key).run := by
  refine ⟨fun authority key redeemed added hadded => ?_, fun site key => ?_⟩
  · have hbounded : ((d.describedRecord authority key redeemed).credit added).terms.Bounded := by
      rw [Record.terms_credit]
      exact Document.bounded_of_makes_resolve h (size_tag_le key) hadded
    obtain ⟨bs, hbs, hlength⟩ := Record.exists_encode_le hbounded
    have hsize := Record.maxSize_add
    exact ⟨bs, hbs, by omega⟩
  · refine (creates_of_submitted d site key).mono fun tx htx hcreates => ?_
    rw [accountSize_recordTerms]
    refine ⟨_, htx hcreates, rfl, Terms.linesStart_le_accountSize d.terms, fun hd => ?_⟩
    rw [uploadsItems, Bool.not_eq_true'] at hd
    exact Terms.lineStart_add_le_accountSize hd

/-- A document of a drop of two items with a naming template and one more creator than none. -/
def twoNamedItems : Document :=
  { Document.blank with
    number := 2
    symbol := "DROP"
    creators := [⟨Address.systemProgram.toText, false, 100⟩]
    sequel := some ⟨"Drop", "ipfs://", false⟩ }

theorem account_holds_record_twoNamedItems :
    ∃ t d u tx space bs, Makes (Document.resolve 0 twoNamedItems .zero).run t (some (.ok d)) ∧
      ((d.describedRecord .zero default 1).credit [⟨.zero, true, 0⟩]).encode = some bs ∧
      bs.length ≤ Terms.linesStart - 4 ∧ (∃ r, Makes (run d oneItemSite default).run u r) ∧
      (∃ e ∈ u, e.submitted? = some tx) ∧
      Record.Creates tx (default : Keypair).address space (d.describedRecord (default : Keypair).address default 0) ∧
      Terms.lineStart 2 + 1 ≤ space := by
  obtain ⟨d, hd, hmakes⟩ := @exists_makes_ok _ _ _ Kept.serve (Document.resolve 0 twoNamedItems .zero).run .empty
    (fun d => d.uploadsItems && (d.itemCount == 2 && ((run d oneItemSite default).run.transcript Kept.serve .empty).1.any
      fun e => e.submitted?.any (·.createsRecord))) (by decide +kernel)
  simp only [Bool.and_eq_true, List.any_eq_true, beq_iff_eq] at hd
  obtain ⟨huploads, hcount, e, he, hsubmitted⟩ := hd
  obtain ⟨tx, htx, hcreates⟩ := (Option.any_eq_true _ _).1 hsubmitted
  obtain ⟨hencode, hspace⟩ := account_holds_record hmakes
  obtain ⟨bs, hbs, hlength⟩ := hencode .zero default 1 [⟨.zero, true, 0⟩] (by decide)
  have hrun := makes_transcript Kept.serve (run d oneItemSite default).run .empty
  obtain ⟨space, hallocates, -, -, hlines⟩ := hspace oneItemSite default _ _ hrun e he tx htx hcreates
  have hcovers := hlines huploads
  rw [hcount] at hcovers
  exact ⟨_, d, _, tx, space, bs, hmakes, hbs, hlength, ⟨_, hrun⟩, ⟨e, he, htx⟩, hallocates, hcovers⟩

end Deployment

end MintDrop
