import ObjectVolume.Cli.Execution
import ObjectVolume.Session
import ObjectVolume.Store.Memory
/-!
# The program

Reads arguments, environment and token file, executes the command and prints what comes of it. The
program reaches no network: the store is one in memory, empty at the start, and no token service
answers.

| here | there |
| --- | --- |
| `execute` | `run` |
| `report`, `main` | `main` |
-/
namespace ObjectVolume

/-- The variables that the program reads, and their values. -/
def readEnvironment : IO Cli.Environment := do
  let mut values : List (String × String) := []
  for name in tokenFileVariable :: Cli.environmentNames do
    if let some value ← IO.getEnv name then values := (name, value) :: values
  return fun name => values.lookup name

/-- What the path of the identity token leads to. An empty path counts as none. -/
def readTokenFile (env : Cli.Environment) : IO (Option Federation.TokenFile) := do
  match env tokenFileVariable with
  | none | some "" => return none
  | some path =>
    try return some (.file (← IO.FS.readBinFile path))
    catch
      | .inappropriateType .. => return some .directory
      | .noFileOrDirectory .. => return some .missing
      | .permissionDenied .. => return some (.unreadable "Permission denied (os error 13)")
      | e => return some (.unreadable (toString e))

/-- Says why a command was not done. -/
def report (message : String) : IO UInt32 := do
  IO.eprintln ("Error: " ++ message)
  return 1

/-- Executes the command of an invocation. -/
def execute (env : Cli.Environment) (i : Cli.Invocation) : IO UInt32 := do
  let service := Federation.serviceOver fun _ => .unreachable
  match i.connect service (← readTokenFile env) with
  | .error f => report f.message
  | .ok client =>
    let session : Session Store.Memory := ⟨{}, client⟩
    let action := i.command.execute Store.memory client.config
    match (session.run none action.run).1 with
    | .done (.ok text) =>
      IO.print text
      return 0
    | .done (.error f) => report ("command failed: " ++ f.message)
    | .failed e => report e.message
    | .died message => report message

end ObjectVolume

open ObjectVolume in
def main (arguments : List String) : IO UInt32 := do
  let env ← readEnvironment
  match Cli.Invocation.read env arguments with
  | .ok i => execute env i
  | .error r =>
    IO.eprintln r.message
    return r.exitCode.toUInt32
