import MintDrop.Cli.Command
import MintDrop.Deployment.Run
import MintDrop.Document.Resolve
import MintDrop.Mint.Run
import MintDrop.Settings.Check
import MintDrop.Store.File
import MintDrop.Withdraw.Sweep

/-!
# Running commands

`Cli.run` does what a command line asks for, with the files, the ledger and the progress store of its
`Surroundings`.
-/

namespace MintDrop.Cli

/-- What a command finds outside the program. -/
structure Surroundings (m : Type → Type) where
  /-- The content of a file. -/
  read : (path : String) → m (Option Bytes)
  /-- The answer to a call, with the progress in a directory. -/
  answer : (dir : String) → (c : Call) → m c.Reply
  /-- The supply of new keys. -/
  keys : Nat → Keypair
  /-- The time in seconds. -/
  now : Int

/-! ### Failures -/

/-- Why a command failed. -/
inductive Failure
  | config (e : ConfigError)
  | ledger (e : LedgerError)
  | store (e : StoreError)
  | deployment (e : Deployment.Error)
  | mint (e : Mint.Error)
  | percent (e : CharityShare.InvalidPercent)
  | sweep (e : Sweep.Error)
  /-- A share was given for no charity. -/
  | noCharity
  /-- There is no record to mint from. -/
  | noRecord

namespace Failure

/-- A kind of error with its message. -/
def described (kind message : String) : String := kind ++ "(" ++ Text.quoted message ++ ")"

/-- The report of a failure. -/
def report : Failure → String
  | .config e => described e.kind e.message
  | .ledger e => described e.kind e.message
  | .store e => described e.kind e.message
  | .deployment e => described e.kind e.message
  | .mint e => described e.kind e.message
  | .percent e => described "InvalidPercent" e.message
  | .sweep e => described "Enumerate" e.message
  | .noCharity => Text.quoted "--charity-percent requires --charity"
  | .noRecord => Text.quoted "no --candy-machine given and no deployment cached"

end Failure

/-! ### Steps -/

variable {m : Type → Type} [Monad m]

/-- A result, with its error seen as a failure. -/
def check {ε α : Type} (result : Except ε α) (wrap : ε → Failure) : ExceptT Failure m α :=
  ExceptT.mk (pure (result.mapError wrap))

/-- The content of a file that must be there. -/
def readFile (s : Surroundings m) (path : String) (missing : Failure) : ExceptT Failure m Bytes :=
  ExceptT.mk do
    match ← s.read path with
    | some content => pure (.ok content)
    | none => pure (.error missing)

/-- The result of a script, with the progress where the settings keep it. -/
def perform (s : Surroundings m) (settings : Settings) {ε α : Type} (script : ExceptT ε Script α)
    (wrap : ε → Failure) : ExceptT Failure m α :=
  ExceptT.mk do
    let result ← Script.run (s.answer settings.cacheDir) script.run
    pure (result.mapError wrap)

/-- The settings of a command. -/
def readSettings (s : Surroundings m) : Option String → ExceptT Failure m Settings
  | none => pure .standard
  | some path => do
      let content ← readFile s path (.config .unreadable)
      check (Settings.ofFile content) .config

/-- The signing key of a command. -/
def readKeypair (s : Surroundings m) (path : String) : ExceptT Failure m Keypair := do
  let refused := Failure.ledger (.wallet ("Failed to read keypair " ++ path))
  let content ← readFile s path refused
  match Keypair.ofFile? content with
  | some key => pure key
  | none => throw refused

/-! ### Commands -/

/-- Creates a record and uploads its items: whether all was done. -/
def deploy (s : Surroundings m) (settings : Settings) (program : Address) (common : Common)
    (cacheName configPath : String) : ExceptT Failure m Bool := do
  let payer ← readKeypair s common.keypair
  let content ← readFile s configPath (.config .unreadable)
  let document ← check (Document.ofFile content) .config
  let deployment ← perform s settings (document.resolve s.now payer.address) .config
  let site : Deployment.Site := ⟨program, payer, ⟨common.env, cacheName⟩, settings.batching⟩
  let report ← perform s settings (deployment.run site (s.keys 0)) .deployment
  pure report.success

/-- The record to mint from: the one that is named, or the deployed one. -/
def findRecord (s : Surroundings m) (settings : Settings) (common : Common) (cacheName : String) :
    Option String → ExceptT Failure m Address
  | some text => check (Address.parse text) .ledger
  | none => do
      let progress ← perform s settings (Script.load ⟨common.env, cacheName⟩) .store
      let identity ← match progress with
        | some p => check p.identity .ledger
        | none => pure none
      match identity with
      | some id => pure id.address
      | none => throw .noRecord

/-- Mints one item. -/
def mint (s : Surroundings m) (settings : Settings) (program : Address) (common : Common)
    (cacheName : String) (record : Option String) : ExceptT Failure m Bool := do
  let buyer ← readKeypair s common.keypair
  let record ← findRecord s settings common cacheName record
  let _ ← perform s settings (Mint.run (.standard program) record buyer s.keys) .mint
  pure true

/-- The charity of a withdrawal. -/
def findCharity (charity : Option String) (percent : Float) : ExceptT Failure m (Option CharityShare) :=
  match charity with
  | some text => do
      let address ← check (Address.parse text) .ledger
      let share ← check (CharityShare.ofPercent address percent) .percent
      pure (some share)
  | none => do
      let _ ← check (CharityShare.ofPercent .zero percent) .percent
      if 0 < percent then throw .noCharity
      pure none

/-- Withdraws the balances of all records: whether all was done. -/
def withdraw (s : Surroundings m) (settings : Settings) (program : Address) (common : Common)
    (dryRun : Bool) (charity : Option String) (percent : Float) : ExceptT Failure m Bool := do
  let share ← findCharity charity percent
  let authority ← readKeypair s common.keypair
  let report ← perform s settings (Sweep.run program authority share dryRun) .sweep
  pure report.success

/-- Does what a command says: whether all was done. -/
def execute (s : Surroundings m) (command : Command) : ExceptT Failure m Bool := do
  let settings ← readSettings s command.settings
  let program ← check (Address.parse settings.recordProgram) .ledger
  match command.action with
  | .deploy common cacheName configPath => deploy s settings program common cacheName configPath
  | .mint common cacheName record => mint s settings program common cacheName record
  | .withdraw common dryRun charity percent =>
      withdraw s settings program common dryRun charity percent

/-! ### Command lines -/

/-- How a run of the program ends. -/
inductive Outcome
  /-- The command line was not carried out. -/
  | stopped (stop : Stop)
  | failed (f : Failure)
  /-- The command was carried out, with everything done or not. -/
  | finished (success : Bool)

namespace Outcome

/-- The exit code of the program. -/
def exitCode : Outcome → UInt8
  | .stopped .shown => 0
  | .stopped .wrong => 2
  | .failed _ => 1
  | .finished success => if success then 0 else 1

/-- The last line on the standard output. -/
def doneLine? : Outcome → Option String
  | .finished success => some ("Done. Successful = " ++ (if success then "true" else "false") ++ ".")
  | _ => none

/-- The line on the standard error output. -/
def errorLine? : Outcome → Option String
  | .failed f => some ("Error: " ++ f.report)
  | _ => none

end Outcome

/-- The name of the environment variable for the settings file. -/
def settingsVariable : String := "CANDY_OPERATOR_SETTINGS"

/-- Carries out a command line; `fromEnv` is the value of the variable `settingsVariable`. -/
def run (s : Surroundings m) (fromEnv : Option String) (arguments : List String) : m Outcome := do
  match Command.ofArguments fromEnv arguments with
  | .error stop => pure (.stopped stop)
  | .ok command =>
      match ← (execute s command).run with
      | .ok success => pure (.finished success)
      | .error f => pure (.failed f)

/-! ### Without a network -/

/-- Why no ledger node answers. -/
def unreachable : LedgerError := .rpc "no ledger node is reachable"

/-- The answer to a call in a tree of files, without a ledger node. -/
def answerOffline (dir : String) (c : Call) : StateM Disk c.Reply := fun d =>
  match c with
  | .account _ => (.error unreachable, d)
  | .rent _ => (.error unreachable, d)
  | .owned _ _ => (.error unreachable, d)
  | .submit _ => (.error unreachable, d)
  | .load slot => (FileStore.load d dir slot, d)
  | .save slot p => FileStore.save d dir slot p
  | .turn others => (⟨0, others.succ_pos⟩, d)

/-- A tree of files without a ledger node. -/
def Surroundings.offline (keys : Nat → Keypair) (now : Int) : Surroundings (StateM Disk) where
  read path := do pure ((← get).read path).toOption
  answer := answerOffline
  keys
  now

end MintDrop.Cli
