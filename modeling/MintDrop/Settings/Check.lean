import MintDrop.Settings.Basic
import MintDrop.Settings.Error
import MintDrop.Url.Basic

/-!
# Checking settings

`Settings.problems` lists all that settings say wrong, and `Settings.ofFile` reads the content of a settings
file, which must have no problems.
-/

namespace MintDrop.Settings

/-- The problem of an endpoint. -/
def endpointProblem? (env url : String) : Option Problem :=
  match Url.check url with
  | .ok () => none
  | .error fault =>
      some ⟨"cluster.endpoints." ++ env, "invalid URL '" ++ url ++ "': " ++ fault.message⟩

/-- The problems of the ledger nodes. -/
def clusterProblems (s : Settings) : List Problem :=
  Problem.when s.endpoints.isEmpty "cluster.endpoints" "at least one endpoint is required"
    ++ s.endpoints.filterMap (fun (env, url) => endpointProblem? env url)
    ++ Problem.when (s.rpcTimeoutSecs = 0) "cluster.rpc_timeout_secs" "must be greater than 0"
    ++ Problem.when (Commitment.ofName? s.commitment).isNone "cluster.commitment"
      ("unknown commitment '" ++ s.commitment ++ "'")

/-- The problems of the upload. -/
def uploadProblems (b : Batching) : List Problem :=
  Problem.when (b.outerBatchSize = 0) "upload.outer_batch_size" "must be greater than 0"
    ++ Problem.when (b.groupSize = 0 ∨ b.outerBatchSize < b.groupSize) "upload.group_size"
      ("must be between 1 and outer_batch_size (" ++ toString b.outerBatchSize ++ ")")
    ++ Problem.when (b.maxConcurrentSlices = 0) "upload.max_concurrent_slices" "must be at least 1"

/-- All problems, in the order in which they are reported. -/
def problems (s : Settings) : List Problem :=
  clusterProblems s ++ uploadProblems s.batching
    ++ Problem.ofAddress "program.candy_machine_id" s.recordProgram

/-- Refuses settings that have problems. -/
def check (s : Settings) : Except ConfigError Unit :=
  if s.problems.isEmpty then .ok () else .error (.invalid s.problems)

/-- The settings of a file with some content. -/
def ofFile (content : Bytes) : Except ConfigError Settings :=
  match Utf8.decode content with
  | .error _ => .error .unreadable
  | .ok text =>
      match ofToml? text with
      | none => .error .unparsable
      | some s => s.check.map fun () => s

end MintDrop.Settings
