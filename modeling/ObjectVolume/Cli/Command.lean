import ObjectVolume.Cli.Arguments
import ObjectVolume.Config
import ObjectVolume.Secret
/-!
# Commands

What can be asked for on the command line: a command on a bucket, and how to reach the object store.
Everything but the command itself may also come from the environment.

| here | there |
| --- | --- |
| `Command`, `Verb` | `Command`, and the names that `Command.name` gives |
| `Invocation` | `Cli` |
| `sharedOptions`, `Verb.options` | the arguments of `Cli` and `SecretBundle`, and those of each `Command` |
| `readSecret` | the `SecretBundle` in `Cli` |
| `Invocation.read` | `Cli.init` |
-/
namespace ObjectVolume.Cli

inductive Command where
  /-- Does the bucket exist? -/
  | check (bucket : String)
  /-- Provide a volume. -/
  | create (bucket root : String) (capacity : Int64) (options : List String)
  /-- Delete a prefix, or without one the bucket. -/
  | delete (bucket root : String)
  /-- Show the descriptor of a volume. -/
  | describe (bucket root : String)
  deriving DecidableEq

/-- What the arguments ask for. -/
structure Invocation where
  secret : Secret
  mounter : String
  parallelism : UInt64
  command : Command
  deriving DecidableEq

/-! ## Options -/

/-- The verb of a command. -/
inductive Verb where
  | check
  | create
  | delete
  | describe
  deriving DecidableEq, Repr

namespace Verb

def all : List Verb := [check, create, delete, describe]

def name : Verb → String
  | check => "exists"
  | create => "create"
  | delete => "delete"
  | describe => "describe"

def ofName? (s : String) : Option Verb :=
  all.find? (·.name == s)

theorem ofName?_name (v : Verb) : ofName? v.name = some v := by
  cases v <;> decide

end Verb

/-- Lists the commands, or explains one. -/
def helpName : String := "help"

def helpFlag : Flag := ⟨"help", 'h', .help⟩

def versionFlag : Flag := ⟨"version", 'V', .version⟩

/-- Options that may stand before and after the verb. -/
def sharedOptions : List OptionSpec :=
  [{ name := "mounter", envName? := some "BUCKETVOL_MOUNTER" },
   { name := "delete-parallelism", kind := .unsigned,
     envName? := some "BUCKETVOL_DELETE_PARALLELISM" }]

/-- What stands before the verb. -/
def topSpec : Spec where
  options :=
    [{ name := "access-key-id", envName? := some "S3_ACCESS_KEY_ID" },
     { name := "secret-access-key", envName? := some "S3_SECRET_ACCESS_KEY" },
     { name := "region", envName? := some "S3_REGION" },
     { name := "endpoint", envName? := some "S3_ENDPOINT", required := true },
     { name := "iam-role-arn", envName? := some "S3_IAM_ROLE_ARN" }] ++ sharedOptions
  flags := [helpFlag, versionFlag]
  subcommands := Verb.all.map Verb.name ++ [helpName]

/-- The options of one verb only. -/
def Verb.options : Verb → List OptionSpec
  | check => []
  | create =>
    [{ name := "prefix" }, { name := "capacity-bytes", kind := .signed },
     { name := "mount-option", repeatable := true }]
  | delete | describe => [{ name := "prefix" }]

/-- What stands after the verb. -/
def Verb.spec (v : Verb) : Spec where
  options := v.options ++ sharedOptions
  flags := [helpFlag]
  positional := true

/-- The environment variables that give options their values. -/
def environmentNames : List String :=
  topSpec.options.filterMap (·.envName?)

/-! ## Reading arguments -/

/-- Explains what is named after the word `help`: nothing, or the name of one verb. -/
def readHelp : List String → Refusal
  | [] => .help
  | [name] => if topSpec.subcommands.contains name then .help else .invalidSubcommand
  | _ :: _ :: _ => .invalidSubcommand

/-- Reads the arguments after a verb. -/
def Verb.read (v : Verb) (env : Environment) (arguments : List String) : Except Refusal Matches := do
  let (state, _) ← v.spec.readAll {} arguments
  let m ← v.spec.finish env state
  v.spec.checkRequired m
  return m

/-- Reads what follows the name of a subcommand. -/
def readSubcommand (env : Environment) (name : String) (arguments : List String) :
    Except Refusal (Verb × Matches) := do
  match Verb.ofName? name with
  | some v => return (v, ← v.read env arguments)
  | none => throw (readHelp arguments)

/-- The command of a verb. -/
def Verb.command (v : Verb) (m : Matches) : Command :=
  let bucket := m.positional.getD ""
  let root := (m.value? "prefix").getD ""
  match v with
  | check => .check bucket
  | create =>
    let capacity := ((m.value? "capacity-bytes").bind readSigned?).getD 0
    .create bucket root (.ofInt capacity) (m.argumentsFor "mount-option")
  | delete => .delete bucket root
  | describe => .describe bucket root

/-- The value of a shared option: after the verb, before it, or in the environment. -/
def sharedValue? (before after : Matches) (name : String) : Option String :=
  after.argumentFor? name <|> before.value? name

/-- The secret given by the options before the verb. -/
def readSecret (m : Matches) : Secret where
  accessKeyId := (m.value? "access-key-id").getD ""
  secretAccessKey := (m.value? "secret-access-key").getD ""
  region := (m.value? "region").getD ""
  endpoint := (m.value? "endpoint").getD ""
  roleArn := m.value? "iam-role-arn"

/-- Reads all arguments. What follows the verb is read and checked before what precedes it is. -/
def Invocation.read (env : Environment) (arguments : List String) :
    Except Refusal Invocation := do
  let (state, next) ← topSpec.readAll {} arguments
  let sub ← next.mapM fun (name, rest) => readSubcommand env name rest
  let before ← topSpec.finish env state
  match sub with
  | none =>
    if before.given.isEmpty ∧ before.inherited.isEmpty then throw .helpForMissingArguments
    else throw .missingSubcommand
  | some (verb, after) =>
    topSpec.checkRequired before
    let parallelism :=
      ((sharedValue? before after "delete-parallelism").bind readUnsigned?).getD
        defaultParallelism.toNat
    return {
      secret := readSecret before
      mounter := (sharedValue? before after "mounter").getD ""
      parallelism := .ofNat parallelism
      command := verb.command after }

end ObjectVolume.Cli
