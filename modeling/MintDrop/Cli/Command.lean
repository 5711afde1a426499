import MintDrop.Cli.Options
import MintDrop.Number.Double
import MintDrop.Settings.Basic

/-!
# Commands

`Command.ofArguments` reads the arguments of the program: options for all commands, the name of a command
and its own options.
-/

namespace MintDrop.Cli

/-- Who acts where. -/
structure Common where
  /-- The file of the signing key. -/
  keypair : String
  env : String
  /-- The URL of a ledger node, instead of the environment's. -/
  rpcUrl : Option String
  deriving DecidableEq

/-- What is to be done. -/
inductive Action
  /-- Creates a record and uploads its items. -/
  | deploy (common : Common) (cacheName configPath : String)
  /-- Mints one item. -/
  | mint (common : Common) (cacheName : String) (record : Option String)
  /-- Withdraws the balances of all records. -/
  | withdraw (common : Common) (dryRun : Bool) (charity : Option String) (percent : Float)

/-- What is to be done with which settings. -/
structure Command where
  /-- The settings file. -/
  settings : Option String
  logLevel : Option String
  action : Action

namespace Command

/-- The option that every command has for its help. -/
def help : Flag := Flag.switch "help" (some 'h')

/-- The options that may stand before and after the name of a command. -/
def globalFlags : List Flag := [Flag.path "settings" none, Flag.text "log-level" (some 'l'), help]

/-- The options before the name of a command. -/
def rootFlags : List Flag := Flag.switch "version" (some 'V') :: globalFlags

/-- The options of every command. -/
def commonFlags : List Flag :=
  globalFlags ++
    [Flag.path "keypair" (some 'k'), Flag.text "env" (some 'e'), Flag.text "rpc-url" (some 'r')]

/-- The options of `deploy`. -/
def deployFlags : List Flag :=
  commonFlags ++ [Flag.text "cache-name" (some 'c'), Flag.path "config-path" none]

/-- The options of `mint`. -/
def mintFlags : List Flag :=
  commonFlags ++ [Flag.text "cache-name" (some 'c'), Flag.text "candy-machine" none]

/-- Whether a text is a number. -/
def isNumber (text : String) : Bool := (Double.ofText? text.toList).isSome

/-- The options of `withdraw`. -/
def withdrawFlags : List Flag :=
  commonFlags ++
    [Flag.switch "dry-run" none, Flag.text "charity" none, ⟨"charity-percent", none, true, isNumber⟩]

/-- The options that end the reading. -/
def shown : List String := ["help", "version"]

/-- The options of a command, after which no word may follow. -/
def ownValues (flags : List Flag) (words : List String) : Except Stop Values := do
  let (options, rest) ← Options.scan flags shown words.length .empty words
  if rest.isEmpty then options.settle else throw .wrong

/-- An option that must be there. -/
def required (values : Values) (name : String) : Except Stop String :=
  match values.lookup name with
  | some value => .ok value
  | none => .error .wrong

/-- The options of every command. -/
def common (values : Values) : Except Stop Common := do
  let keypair ← required values "keypair"
  pure ⟨keypair, (values.lookup "env").getD Settings.defaultEnv, values.lookup "rpc-url"⟩

/-- The name under which progress is kept. -/
def cacheName (values : Values) : String := (values.lookup "cache-name").getD "temp"

/-- The action of a command with its own options. -/
def readAction (name : String) (words : List String) : Except Stop (Values × Action) :=
  match name with
  | "deploy" => do
      let values ← ownValues deployFlags words
      let common ← common values
      let configPath ← required values "config-path"
      pure (values, .deploy common (cacheName values) configPath)
  | "mint" => do
      let values ← ownValues mintFlags words
      let common ← common values
      pure (values, .mint common (cacheName values) (values.lookup "candy-machine"))
  | "withdraw" => do
      let values ← ownValues withdrawFlags words
      let common ← common values
      let percent := ((values.lookup "charity-percent").bind (Double.ofText? ·.toList)).getD 0
      pure (values,
        .withdraw common (values.lookup "dry-run").isSome (values.lookup "charity") percent)
  | _ => .error .wrong

/-- The names of the commands. -/
def names : List String := ["deploy", "mint", "withdraw", "help"]

/-- The end of a call for help. -/
def helpStop : List String → Stop
  | [] => .shown
  | [name] => if names.contains name then .shown else .wrong
  | _ => .wrong

/-- The command of the program's arguments; `fromEnv` is the settings file that the environment names, for
calls that name none.  The value of an option right before the command is checked after the command's own
options. -/
def ofArguments (fromEnv : Option String) (arguments : List String) : Except Stop Command := do
  let (options, rest) ← Options.scan rootFlags shown arguments.length .empty arguments
  match rest with
  | [] => throw .wrong
  | "help" :: rest => throw (helpStop rest)
  | name :: rest =>
      let (inner, action) ← readAction name rest
      let outer ← options.settle
      let everywhere := (outer.lookup "settings").isSome && (inner.lookup "settings").isSome
      if fromEnv = some "" ∧ !everywhere then throw .wrong
      let global (name : String) : Option String := (inner.lookup name).or (outer.lookup name)
      pure ⟨(global "settings").or fromEnv, global "log-level", action⟩

/-- How the program is called. -/
def usage : String :=
  "Usage: candy-operator [--settings PATH] [--log-level LEVEL] <deploy|mint|withdraw> [OPTIONS]"

end Command

end MintDrop.Cli
