import EtcdBackup.Simulation.Files

/-!
# A stand-in for etcdctl

The stand-in copies the data directory to the backup directory. Files in the data directory direct
it: what is in `.stderr` it prints, `.exit` holds the code that it stops with, and with `.nothing`
it does nothing.
-/

set_option autoImplicit false
set_option relaxedAutoImplicit false

namespace EtcdBackup.Simulation.Etcdctl

/-- Copies a directory; into the target, if that is there already. -/
def copy (fs : Files) (source target : String) : Except IoFault Files := do
  let tree := fs.inside (← fs.locate source)
  let names ← fs.locate target
  let names := match fs.nodeAt names, Path.fileName? source with
    | some .directory, some name => names ++ [name]
    | _, _ => names
  .ok (tree.foldl (fun fs (rest, node) ↦ fs.place (names ++ rest) node)
    (fs.place names .directory))

/-- The number that a file holds. -/
def exitCode (content : Bytes) : Nat :=
  ((Text.trim (Utf8.lossy content)).toNat?.getD 2) % 256

/-- Runs the command. -/
def run (fs : Files) (command : Command) : Except IoFault CommandResult × Files :=
  let source := command.arguments.getD 2 ""
  let target := command.arguments.getD 4 ""
  let directive (name : String) : Option Bytes := (fs.read (Path.join source name)).toOption
  let stderr := (directive ".stderr").getD []
  match directive ".exit" with
  | some code => (.ok ⟨exitCode code, stderr⟩, fs)
  | none =>
    if (directive ".nothing").isSome then (.ok ⟨0, stderr⟩, fs)
    else
      match fs.tree source, copy fs source target with
      | .ok _, .ok fs => (.ok ⟨0, stderr⟩, fs)
      | _, _ =>
        let quote := String.ofList [Char.ofNat 39]
        let complaint := s!"cp: cannot stat {quote}{source}{quote}: {IoFault.notFound.message}"
        (.ok ⟨1, stderr ++ Utf8.encode complaint⟩, fs)

end EtcdBackup.Simulation.Etcdctl
