import MintDrop.Address
import MintDrop.Deployment.Partition
import MintDrop.Toml.Document
import MintDrop.Toml.Fields

/-!
# Operator settings

`Settings` say which ledger nodes the tool talks to, where it keeps progress and how it uploads.  A settings
file is TOML; what it leaves out has the value of `Settings.standard`.
-/

namespace MintDrop

/-- How final a state of the ledger must be before it counts. -/
inductive Commitment
  | processed
  | confirmed
  | finalized
  deriving DecidableEq

namespace Commitment

/-- The name of a commitment. -/
def name : Commitment → String
  | .processed => "processed"
  | .confirmed => "confirmed"
  | .finalized => "finalized"

/-- The commitment of a name. -/
def ofName? (name : String) : Option Commitment :=
  [processed, confirmed, finalized].find? (·.name = name)

end Commitment

/-- What an operator settles once for all runs. -/
structure Settings where
  /-- The URL of a ledger node for each environment, by ascending name. -/
  endpoints : List (String × String)
  rpcTimeoutSecs : Nat
  /-- The name of the commitment. -/
  commitment : String
  cacheDir : String
  batching : Batching
  /-- The address of the record program, as it is written. -/
  recordProgram : String
  deriving DecidableEq

namespace Settings

/-- The environment that stands in for unknown ones. -/
def defaultEnv : String := "devnet"

/-- The URL that stands in for a missing default environment. -/
def fallbackUrl : String := "https://api.devnet.solana.com"

/-- The settings without a file. -/
def standard : Settings where
  endpoints :=
    [(defaultEnv, fallbackUrl), ("localnet", "http://127.0.0.1:8899"),
      ("mainnet-beta", "https://api.mainnet-beta.solana.com"),
      ("testnet", "https://api.testnet.solana.com")]
  rpcTimeoutSecs := 60
  commitment := "confirmed"
  cacheDir := ".cache"
  batching := .standard
  recordProgram := Address.recordProgram.toText

/-! ### Reading -/

/-- The `cluster` table. -/
def readCluster (v : Toml.Value) (s : Settings) : Option Settings :=
  v.fields?
    [Toml.Value.field "endpoints" Toml.Value.texts? fun s urls =>
        { s with endpoints := urls.mergeSort fun a b => a.1 ≤ b.1 },
      Toml.Value.field "rpc_timeout_secs" Toml.Value.count? fun s n => { s with rpcTimeoutSecs := n },
      Toml.Value.field "commitment" Toml.Value.text? fun s name => { s with commitment := name }]
    s

/-- The `cache` table. -/
def readCache (v : Toml.Value) (s : Settings) : Option Settings :=
  v.fields? [Toml.Value.field "dir" Toml.Value.text? fun s dir => { s with cacheDir := dir }] s

/-- The `upload` table. -/
def readUpload (v : Toml.Value) (s : Settings) : Option Settings :=
  let size (key : String) (put : Batching → Nat → Batching) : Toml.Value.Field Settings :=
    Toml.Value.field key Toml.Value.count? fun s n => { s with batching := put s.batching n }
  v.fields?
    [size "outer_batch_size" fun b n => { b with outerBatchSize := n },
      size "group_size" fun b n => { b with groupSize := n },
      size "max_concurrent_slices" fun b n => { b with maxConcurrentSlices := n }]
    s

/-- The `program` table. -/
def readProgram (v : Toml.Value) (s : Settings) : Option Settings :=
  v.fields?
    [Toml.Value.field "candy_machine_id" Toml.Value.text? fun s id => { s with recordProgram := id }] s

/-- The settings that a TOML text says. -/
def ofToml? (text : String) : Option Settings := do
  let entries ← Toml.parse? text
  (Toml.Value.table entries).fields?
    [⟨"cluster", readCluster⟩, ⟨"cache", readCache⟩, ⟨"upload", readUpload⟩, ⟨"program", readProgram⟩]
    standard

/-! ### Using -/

/-- The URL of the node for an environment, unless one is given. -/
def resolveUrl (s : Settings) (env : String) (custom : Option String) : String :=
  match custom with
  | some url => url
  | none => ((s.endpoints.lookup env).or (s.endpoints.lookup defaultEnv)).getD fallbackUrl

/-- The commitment that the ledger is asked for. -/
def commitmentLevel (s : Settings) : Commitment := (Commitment.ofName? s.commitment).getD .confirmed

end Settings

end MintDrop
