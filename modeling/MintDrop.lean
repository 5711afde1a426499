import MintDrop.Cli.Run
import MintDrop.Log.Filter
import MintDrop.Main
import MintDrop.Proofs.Bytes
import MintDrop.Proofs.Codec
import MintDrop.Proofs.Partition
import MintDrop.Proofs.Text.Utf8
import MintDrop.Proofs.Trace
import MintDrop.Rehearsal.Basic
import MintDrop.Record.Instruction
import MintDrop.Proofs.Record.Lines
import MintDrop.Proofs.Text.Base58
import MintDrop.Proofs.Upload.Group
import MintDrop.Proofs.Upload.Steps
import MintDrop.Proofs.Upload.Course
import MintDrop.Proofs.Upload.Marks
import MintDrop.Proofs.Upload.Snapshots
import MintDrop.Proofs.Deployment.Course
import MintDrop.Proofs.Deployment.History
import MintDrop.Proofs.Deployment.Provenance
import MintDrop.Proofs.Deployment.Identity
import MintDrop.Proofs.Deployment.Failure
import MintDrop.Proofs.Deployment.Rerun
import MintDrop.Proofs.Upload.Order
import MintDrop.Proofs.Mint.Delegates
import MintDrop.Proofs.Mint.Draft
import MintDrop.Proofs.Mint.Arrangement
import MintDrop.Proofs.Record.Layout
import MintDrop.Proofs.Store.Agreement
import MintDrop.Proofs.Deployment.Submissions
import MintDrop.Proofs.Record.Size
import MintDrop.Proofs.Signers
import MintDrop.Proofs.Record.Allocation
import MintDrop.Proofs.Document.Bounds
import MintDrop.Proofs.Deployment.Allocation
import MintDrop.Proofs.Deployment.Entries
import MintDrop.Proofs.Deployment.Capacity
import MintDrop.Proofs.Deployment.Checks
import MintDrop.Proofs.Document.Resolution
import MintDrop.Proofs.Document.Lines
import MintDrop.Proofs.Withdraw.Sweep
import MintDrop.Proofs.Upload.Tiling
import MintDrop.Proofs.Store.Atomic
import MintDrop.Proofs.Progress.Identity
import MintDrop.Proofs.Record.Payload
import MintDrop.Proofs.Mint.Run
import MintDrop.Proofs.Deployment.Guards
import MintDrop.Proofs.Pieces
import MintDrop.Proofs.Calendar.Spelling
