import ObjectVolume.Cli.Command
import ObjectVolume.Volume
/-!
# Executing commands

A command is done in steps, and ends at the first that fails. A failure says what was being done.

| here | there |
| --- | --- |
| `Failure`, `step` | `with_context` |
| `Invocation.connect` | `Cli.create_client` |
| `Command.execute` | `Command.execute`; `checkBucket`, `createVolume` and `deleteVolume` are arms of it |
-/
namespace ObjectVolume.Cli

/-- An error, and what was being done when it arose. -/
structure Failure where
  doing : String
  error : Error
  deriving DecidableEq

/-- The whole story in one line. -/
def Failure.message (f : Failure) : String :=
  f.error.inContext f.doing

/-! ## The client -/

/-- The client that an invocation asks for. -/
def Invocation.connect (i : Invocation) (service : Federation.Service)
    (tokenFile : Option Federation.TokenFile) : Except Failure Client := do
  let c ← (Federation.resolve service tokenFile i.secret).result.mapError
    fun e => ⟨"failed to resolve S3 credentials", e⟩
  (Client.connect { c with mounter := i.mounter, parallelism := i.parallelism }).mapError
    fun p => ⟨"invalid S3 configuration", .config p⟩

/-! ## Steps -/

/-- An operation that may end with a failure. -/
abbrev Action (σ α : Type) := ExceptT Failure (Operation σ) α

variable {σ α : Type}

/-- One step of a command. -/
def step (doing : String) (op : Operation σ α) : Action σ α :=
  ExceptT.mk <| tryCatch (Except.ok <$> op) fun
    | .failed e => pure (.error ⟨doing, e⟩)
    | stop => throw stop

def quoted (name : String) : String := "'" ++ name ++ "'"

def checkBucket (S : Store σ) (bucket : String) : Action σ Bool :=
  step ("failed to check bucket " ++ quoted bucket) (Volume.bucketExists S bucket)

/-- Creates what a volume needs and is not there, and describes it. -/
def createVolume (S : Store σ) (c : Config) (bucket root : String) (capacity : Int64)
    (options : List String) : Action σ Unit := do
  if !(← checkBucket S bucket) then
    step ("failed to create bucket " ++ quoted bucket) (Volume.createBucket S c bucket)
  step ("failed to create prefix " ++ quoted root) (Volume.createPrefix S bucket root)
  step "failed to write volume metadata"
    (Volume.writeDescriptor S (Volume.describe c bucket root capacity options))

/-- Deletes a prefix, or the bucket if the prefix is empty. -/
def deleteVolume (S : Store σ) (c : Config) (bucket root : String) : Action σ Unit :=
  if root.isEmpty then
    step ("failed to remove bucket " ++ quoted bucket) (Volume.removeBucket S c bucket)
  else
    step ("failed to remove " ++ quoted (bucket ++ "/" ++ root))
      (Volume.removePrefix S c bucket root)

/-- Does what a command asks for, and gives what it prints. -/
def Command.execute (S : Store σ) (c : Config) : Command → Action σ String
  | .check bucket => do
    return toString (← checkBucket S bucket) ++ "\n"
  | .create bucket root capacity options => do
    createVolume S c bucket root capacity options
    return ""
  | .delete bucket root => do
    deleteVolume S c bucket root
    return ""
  | .describe bucket root => do
    let d ← step "failed to read volume metadata" (Volume.readDescriptor S bucket root)
    return d.shown ++ "\n"

end ObjectVolume.Cli
