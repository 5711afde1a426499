import MintDrop.Cli.Run

/-!
# The program

The outer layer of the command line: arguments, environment, files and random keys.  No transport to a
ledger node is built in, so that commands end where they would ask the ledger.
-/

namespace MintDrop.Cli

/-- The content of a file that can be read. -/
def fileContent (path : String) : IO (Option Bytes) := do
  try
    let content ← IO.FS.readBinFile path
    pure (some content.toList)
  catch _ => pure none

/-- Loads progress from the first of its files that can be read. -/
def loadFile (dir : String) (slot : Slot) : IO (Except StoreError (Option Progress)) := do
  for legacy in [false, true] do
    let path := FileStore.path dir slot legacy
    if let some content ← fileContent path then
      return (FileStore.ofContent path content).map some
  return .ok none

/-- Saves progress through a temporary file. -/
def saveFile (dir : String) (slot : Slot) (p : Progress) : IO (Except StoreError Unit) := do
  let target := FileStore.path dir slot false
  let mark ← IO.getRandomBytes 8
  let temporary := joinPath dir (".tmp" ++ Bytes.toHex mark.toList)
  let content := Utf8.encode (p.stamp slot).toJson
  try
    if !dir.isEmpty then IO.FS.createDirAll dir
    IO.FS.writeBinFile temporary ⟨content.toArray⟩
    IO.FS.rename temporary target
    pure (.ok ())
  catch e =>
    try IO.FS.removeFile temporary catch _ => pure ()
    pure (.error (.io target (.other (toString e))))

/-- Answers the calls of a command. -/
def answerCall (dir : String) (c : Call) : IO c.Reply :=
  match c with
  | .account _ => pure (.error unreachable)
  | .rent _ => pure (.error unreachable)
  | .owned _ _ => pure (.error unreachable)
  | .submit _ => pure (.error unreachable)
  | .load slot => loadFile dir slot
  | .save slot p => saveFile dir slot p
  | .turn others => pure ⟨0, others.succ_pos⟩

/-- The seconds from 1970, taken from the time of a new file. -/
def secondsNow : IO Int := do
  let (_, path) ← IO.FS.createTempFile
  let made ← path.metadata
  IO.FS.removeFile path
  pure made.modified.sec

/-- A supply of keys from random bytes. -/
def keySupply (random : Bytes) (n : Nat) : Keypair :=
  Keypair.ofSeed (Sha2.sha256 (random ++ Bytes.ofNatLE 8 n))

/-- Carries out the command line of the program. -/
def runProgram (arguments : List String) : IO UInt32 := do
  let random ← IO.getRandomBytes 32
  let now ← secondsNow
  let surroundings : Surroundings IO := ⟨fileContent, answerCall, keySupply random.toList, now⟩
  let outcome ← run surroundings (← IO.getEnv settingsVariable) arguments
  if let .stopped _ := outcome then IO.println Command.usage
  if let some line := outcome.doneLine? then IO.println line
  if let some line := outcome.errorLine? then IO.eprintln line
  pure outcome.exitCode.toUInt32

end MintDrop.Cli

/-- The program. -/
def main (arguments : List String) : IO UInt32 := MintDrop.Cli.runProgram arguments
