import MintDrop.Deployment.Partition
import MintDrop.Record.Instruction
import MintDrop.Script

/-!
# Writing items to a record

Each group of items goes through three steps: `Upload.begin` reads the lines or finds that they are written,
the ledger answers the submission, and the group is marked and the progress saved.  The groups of some slices
are worked on at the same time, and `Upload.work` lets them take their steps in any order.  A group that
fails does not stop the others; the next run repeats just the groups whose items are not marked.
-/

namespace MintDrop

namespace Upload

/-- Where and for whom items are written. -/
structure Site where
  program : Address
  record : Address
  authority : Keypair

/-- Why a group was not written. -/
inductive Reason
  /-- An item of the group is not known. -/
  | unlisted
  | ledger (e : LedgerError)
  /-- The group was written, but its progress was not saved. -/
  | unsaved (signature : Signature) (e : StoreError)

/-- The wording of a reason. -/
def Reason.message : Reason → String
  | .unlisted => "group references an uncached item"
  | .ledger e => e.message
  | .unsaved signature e =>
      "written in " ++ Base58.encode signature ++ " but not persisted: " ++ e.message

/-- A group that was not written. -/
structure Failure where
  group : Span
  reason : Reason

/-- How a group ended. -/
inductive Outcome
  | written
  | skipped
  | failed (f : Failure)

/-- The outcome of an upload. -/
structure Report where
  written : Nat
  skipped : Nat
  /-- The failures by ascending index. -/
  failures : List Failure

namespace Report

/-- Whether no group failed. -/
def success (r : Report) : Bool := r.failures.isEmpty

/-- The number of groups. -/
def totalGroups (r : Report) : Nat := r.written + r.skipped + r.failures.length

/-- The failure of an outcome. -/
def failure? : Outcome → Option Failure
  | .failed f => some f
  | _ => none

/-- The report of the outcomes of all groups, in whatever order they ended. -/
def ofOutcomes (outcomes : List Outcome) : Report where
  written := outcomes.countP fun | .written => true | _ => false
  skipped := outcomes.countP fun | .skipped => true | _ => false
  failures := (outcomes.filterMap failure?).mergeSort fun f g => f.group.start ≤ g.group.start

end Report

/-! ### One group -/

/-- The line of an item. -/
def line (item : Item) : Line := ⟨item.name, item.uri⟩

/-- The first step of a group: the transaction that writes it, or how the group ended without one. -/
def begin (site : Site) (p : Progress) (g : Span) : Except Outcome Transaction :=
  if g.indices.all p.items.isOnChain then .error .skipped
  else match g.indices.mapM p.items.get? with
    | none => .error (.failed ⟨g, .unlisted⟩)
    | some items =>
        match Record.addLines site.program site.record site.authority.address g.start (items.map line) with
        | .error e => .error (.failed ⟨g, .ledger e⟩)
        | .ok instruction => .ok ⟨site.authority.address, [site.authority], [instruction]⟩

/-- The progress once a group is known to be written. -/
def mark (p : Progress) (g : Span) : Progress := p.markOnChain g.start g.last

/-- How far a group has come. -/
inductive Stage
  | waiting
  /-- The transaction that writes the group is to be submitted. -/
  | ready (tx : Transaction)
  /-- The group was written, but it is not marked yet. -/
  | confirmed (signature : Signature)
  | ended (outcome : Outcome)

/-- The stage after the first step. -/
def begun : Except Outcome Transaction → Stage
  | .error outcome => .ended outcome
  | .ok tx => .ready tx

/-- The stage after the ledger's answer to the submission. -/
def answered (g : Span) : Except LedgerError Signature → Stage
  | .error e => .ended (.failed ⟨g, .ledger e⟩)
  | .ok signature => .confirmed signature

/-- The stage after the group was marked and the progress saved. -/
def saved (g : Span) (signature : Signature) : Except StoreError Unit → Stage
  | .error e => .ended (.failed ⟨g, .unsaved signature e⟩)
  | .ok () => .ended .written

/-- The steps that a stage is away from the end at most. -/
def Stage.left : Stage → Nat
  | .waiting => 3
  | .ready _ => 2
  | .confirmed _ => 1
  | .ended _ => 0

/-- How a group ended, once it has. -/
def Stage.outcome? : Stage → Option Outcome
  | .ended outcome => some outcome
  | _ => none

theorem left_begun_lt (r : Except Outcome Transaction) : (begun r).left < Stage.waiting.left := by
  cases r <;> simp [begun, Stage.left]

theorem left_answered_lt (g : Span) (tx : Transaction) (r : Except LedgerError Signature) :
    (answered g r).left < (Stage.ready tx).left := by
  cases r <;> simp [answered, Stage.left]

theorem left_saved_lt (g : Span) (signature : Signature) (r : Except StoreError Unit) :
    (saved g signature r).left < (Stage.confirmed signature).left := by
  cases r <;> simp [saved, Stage.left]

/-! ### The groups of an upload -/

/-- A group of a slice, and how far it has come. -/
structure Task where
  slice : Span
  group : Span
  stage : Stage

/-- The groups of an upload, slice by slice, and the progress that they share. -/
structure Board where
  tasks : List Task
  progress : Progress

namespace Board

/-- The board before the first step. -/
def start (batching : Batching) (count : UInt32) (p : Progress) : Board where
  tasks := (batching.slices count).flatMap fun slice =>
    (slice.partition batching.groupSize).map fun g => ⟨slice, g, .waiting⟩
  progress := p

/-- The slices that are worked on: the first ones, up to a number, with a group that has not ended. -/
def openSlices (b : Board) (width : Nat) : List Span :=
  ((b.tasks.filter (·.stage.outcome?.isNone)).map (·.slice)).eraseDups.take (max 1 width)

/-- The places of the groups that can go on. -/
def ready (b : Board) (width : Nat) : List Nat :=
  let slices := b.openSlices width
  b.tasks.zipIdx.filterMap fun (t, k) =>
    if t.stage.outcome?.isNone && slices.contains t.slice then some k else none

/-- The board with another stage of the group at a place, and other progress. -/
def put (b : Board) (k : Nat) (stage : Stage) (p : Progress) : Board where
  tasks := b.tasks.modify k fun t => { t with stage }
  progress := p

/-- The steps that are left at most. -/
def left (b : Board) : Nat := b.tasks.foldr (fun t steps => t.stage.left + steps) 0

/-- How the groups that have ended did so. -/
def outcomes (b : Board) : List Outcome := b.tasks.filterMap (·.stage.outcome?)

theorem left_put_lt {b : Board} {k : Nat} {t : Task} {stage : Stage} (p : Progress)
    (ht : b.tasks[k]? = some t) (hs : stage.left < t.stage.left) : (b.put k stage p).left < b.left := by
  obtain ⟨tasks, q⟩ := b
  simp only [left, put]
  induction tasks generalizing k with
  | nil => simp at ht
  | cons head tail ih =>
      cases k with
      | zero =>
          obtain rfl : head = t := by simpa using ht
          simpa using hs
      | succ k =>
          have h := ih (k := k) (by simpa using ht)
          simpa using h

end Board

/-- Works on the groups until all have ended, step by step as they get their turns. -/
def work (site : Site) (width : Nat) (b : Board) : Script Board :=
  match b.ready width with
  | [] => .done b
  | first :: others =>
      .call (.turn others.length) fun i =>
        let k := (first :: others).get i
        match _ht : b.tasks[k]? with
        | none => .done b
        | some t =>
            match _hs : t.stage with
            | .waiting => work site width (b.put k (begun (begin site b.progress t.group)) b.progress)
            | .ready tx =>
                .call (.submit tx) fun reply =>
                  work site width (b.put k (answered t.group reply) b.progress)
            | .confirmed signature =>
                .call (.save b.progress.slot (mark b.progress t.group)) fun reply =>
                  work site width (b.put k (saved t.group signature reply) (mark b.progress t.group))
            | .ended _ => .done b
termination_by b.left
decreasing_by
  all_goals refine Board.left_put_lt _ _ht ?_
  all_goals rw [_hs]
  · exact left_begun_lt _
  · exact left_answered_lt _ _ _
  · exact left_saved_lt _ _ _

/-! ### A run -/

/-- Why an upload ended without a report. -/
inductive Error
  | missingItem (index : UInt32)
  | store (e : StoreError)

/-- The wording of an error. -/
def Error.message : Error → String
  | .missingItem index => "item " ++ toString index.toNat ++ " has no cached name/uri"
  | .store e => "failed to persist upload progress: " ++ e.message

/-- The first of `left` indices from `index` on without an item. -/
def firstMissing? (items : Items) (index : Nat) : (left : Nat) → Option UInt32
  | 0 => none
  | left + 1 =>
      if items.contains (UInt32.ofNat index) then firstMissing? items (index + 1) left
      else some (UInt32.ofNat index)

/-- Writes the items with indices below a count that are not written yet: the report, and the progress
after it. -/
def run (site : Site) (batching : Batching) (count : UInt32) (p : Progress) :
    ExceptT Error Script (Report × Progress) := do
  if let some index := firstMissing? p.items 0 count.toNat then
    throw (.missingItem index)
  let b ← liftM (work site batching.maxConcurrentSlices (.start batching count p))
  Script.orElse (Script.save p.slot b.progress) .store
  pure (.ofOutcomes b.outcomes, b.progress)

end Upload

end MintDrop
