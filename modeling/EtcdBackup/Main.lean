import EtcdBackup.Cli.Run

/-!
# The program

Runs the command line on this machine.
-/

set_option autoImplicit false
set_option relaxedAutoImplicit false

namespace EtcdBackup.Main

/-- Why the machine refused a request. -/
def fault : IO.Error → IoFault
  | .noFileOrDirectory .. => .notFound
  | .permissionDenied .. => .permissionDenied
  | .inappropriateType .. => .isADirectory
  | e => .reported (toString e)

/-- Runs an action that may fail. -/
def attempt {α : Type} (action : IO α) : IO (Except IoFault α) := do
  match ← action.toBaseIO with
  | .ok a => pure (.ok a)
  | .error e => pure (.error (fault e))

/-- The content of a file; a directory has none. -/
def readFile (path : String) : IO Bytes := do
  return (← IO.FS.readBinFile path).toList

/-- Random bytes. -/
def randomBytes (count : Nat) : IO { bs : Bytes // bs.length = count } := do
  let bs := (← IO.getRandomBytes (USize.ofNat count)).toList
  pure ⟨(bs ++ List.replicate count 0).take count, by simp⟩

/-- Answers a request; the command line asks for files and random bytes only. -/
def handle : (r : MachineRequest) → IO r.Answer
  | .read path => attempt (readFile path)
  | .write path content => attempt (IO.FS.writeBinFile path (ByteArray.mk content.toArray))
  | .randomBytes count => randomBytes count
  | .tree _ | .makeTemporary _ | .removeTree _ | .run _ => pure (.error .notFound)

/-- The variables of the environment that options can come from. -/
def environment : IO (Keyed String) := do
  let names := Cli.options.filterMap (·.environment)
  let values ← names.mapM fun name ↦ do return (← IO.getEnv name).map fun v ↦ (name, v)
  pure (Keyed.ofList (values.filterMap id))

/-- Ends a run as it should end. -/
def finish (o : Cli.Outcome) : IO UInt32 := do
  IO.print o.stdout
  IO.eprint o.stderr
  pure (UInt32.ofNat o.exitCode)

end EtcdBackup.Main

/-- Runs the program with its arguments. -/
def main (arguments : List String) : IO UInt32 := do
  let environment ← EtcdBackup.Main.environment
  match ← (EtcdBackup.Cli.run arguments environment).run EtcdBackup.Main.handle with
  | .finish outcome => EtcdBackup.Main.finish outcome
  | .serve _ =>
    EtcdBackup.Main.finish (EtcdBackup.Cli.failure "Failed to create Kubernetes client: no access")
