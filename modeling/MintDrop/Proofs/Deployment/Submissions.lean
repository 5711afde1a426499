import MintDrop.Proofs.Deployment.Items
import MintDrop.Proofs.Submits
import MintDrop.Proofs.Upload.Snapshots

/-!
# What a deploy run submits

A run submits the transaction that creates its record (`creation`) and those that write groups of items.
`Submission` lists them, and `submitsOnly_run` says that there are no others; `Upload.submitsOnly_run` says the same
of an upload.
-/

namespace MintDrop

open Script

/-! ### Uploads -/

/-- An upload submits what its groups come to with the items as they were at the start. -/
theorem Upload.submitsOnly_run {site : Site} {batching : Batching} {count : UInt32} {p : Progress}
    {P : Transaction → Prop} (h : ∀ g ∈ batching.groups count, ∀ tx, begin site p g = .ok tx → P tx) :
    SubmitsOnly P (run site batching count p).run := by
  intro t r hmakes e he tx htx
  by_cases hp : Covers p count
  · obtain ⟨log, b, hcourse, -⟩ := makes_run hp hmakes
    obtain ⟨g, hg, hbegin⟩ := hcourse.begin_of_submitted he htx
    exact h g hg tx hbegin
  · obtain ⟨rfl, -⟩ := makes_run_of_not_covers hp hmakes
    cases he

namespace Deployment

variable {d : Deployment} {site : Site} {count : UInt32} {key : Keypair} {p : Progress}

/-- The terms of the record at the address of a key. -/
def recordTerms (d : Deployment) (key : Keypair) : Terms := d.taggedTerms (identityOf key).tag

/-- The accounts of the creation of the record. -/
def createAccounts (d : Deployment) (site : Site) (key : Keypair) : Record.CreateAccounts :=
  ⟨key.address, d.treasury, site.payer.address, site.payer.address, d.tokenMint⟩

/-- The transaction that creates the record, with the balance of its account and the instruction that makes it a
record. -/
def creation (d : Deployment) (site : Site) (key : Keypair) (lamports : UInt64) (initialization : Instruction) :
    Transaction where
  payer := site.payer.address
  signers := [site.payer, key]
  instructions :=
    [System.createAccount site.payer.address key.address lamports (UInt64.ofNat (d.recordTerms key).accountSize)
      site.program, initialization]

/-- What a run may submit. -/
inductive Submission (d : Deployment) (site : Site) (key : Keypair) : Transaction → Prop
  | creates {lamports : UInt64} {initialization : Instruction} :
      Record.create site.program (d.createAccounts site key) (d.recordTerms key) = .ok initialization →
      Submission d site key (d.creation site key lamports initialization)
  | writes {record : Address} {p : Progress} {g : Span} {tx : Transaction} : d.uploadsItems →
      g ∈ site.batching.groups d.itemCount.toUInt32 →
      Upload.begin ⟨site.program, record, site.payer⟩ p g = .ok tx → Submission d site key tx

/-! ### Phases -/

theorem submitsOnly_createRecord : SubmitsOnly (Submission d site key) (createRecord d site key).run := by
  refine (submitsOnly_rent _).andThen fun lamports _ _ => ?_
  refine (submitsOnly_liftExcept _).andThen fun initialization _ hcreate => ?_
  refine (submitsOnly_submit ?_).andThen fun _ _ _ => submitsOnly_pure _
  exact .creates (result_eq_of_makes_liftExcept hcreate)

theorem submitsOnly_newRecord : SubmitsOnly (Submission d site key) (newRecord d site count key p).run := by
  refine (submitsOnly_createRecord.orElse _).andThen fun id _ _ => ?_
  cases afterCreation d count id p with
  | none => exact submitsOnly_throw _
  | some p' => exact ((submitsOnly_save _ _).orElse _).andThen fun _ _ _ => submitsOnly_pure _

theorem submitsOnly_ensureRecord :
    SubmitsOnly (Submission d site key) (ensureRecord d site count key p).run := by
  refine (submitsOnly_check _ _).andThen fun identity _ _ => ?_
  cases identity with
  | some id => exact submitsOnly_pure _
  | none => exact submitsOnly_newRecord.andThen fun _ _ _ => submitsOnly_pure _

theorem submitsOnly_finish (id : Identity) (created : Bool) :
    SubmitsOnly (Submission d site key) (finish d site d.itemCount.toUInt32 id created p).run := by
  rw [finish]
  split_ifs with hd
  · refine ((Upload.submitsOnly_run fun g hg tx hbegin => ?_).orElse _).andThen fun _ _ _ => submitsOnly_pure _
    exact .writes hd hg hbegin
  · exact submitsOnly_pure _

/-- A run submits nothing but the creation of its record and the writes of its groups. -/
theorem submitsOnly_run (d : Deployment) (site : Site) (key : Keypair) :
    SubmitsOnly (Submission d site key) (run d site key).run := by
  rw [run]
  split_ifs with hcount
  · exact submitsOnly_throw _
  · refine ((submitsOnly_load _).orElse _).andThen fun loaded _ _ => ?_
    refine (submitsOnly_check _ _).andThen fun p _ _ => ?_
    exact submitsOnly_ensureRecord.andThen fun _ _ _ => submitsOnly_finish _ _

end Deployment

end MintDrop
