import EtcdBackup.Dialogue
import EtcdBackup.Error
import EtcdBackup.FileTree

/-!
# The machine

What the operator asks of the machine that it runs on: files, temporary directories, random bytes
and other programs.
-/

set_option autoImplicit false
set_option relaxedAutoImplicit false

namespace EtcdBackup

/-- A program to run. -/
structure Command where
  program : String
  /-- Variables of the environment that are set for it. -/
  environment : List (String × String)
  arguments : List String
  deriving DecidableEq, Inhabited

/-- What a program left when it ended. -/
structure CommandResult where
  exitCode : Nat
  stderr : Bytes
  deriving DecidableEq, Inhabited

/-- A request to the machine. -/
inductive MachineRequest
  /-- The content of a file. -/
  | read (path : String)
  /-- Writes a file, in place of one that is there. -/
  | write (path : String) (content : Bytes)
  /-- The file or directory at a path. -/
  | tree (path : String)
  /-- Makes a fresh directory; its path. -/
  | makeTemporary (namePrefix : String)
  /-- Removes a directory with all that is in it. -/
  | removeTree (path : String)
  | randomBytes (count : Nat)
  | run (command : Command)

/-- The type of the answer to a request. -/
@[reducible] def MachineRequest.Answer : MachineRequest → Type
  | .read _ => Except IoFault Bytes
  | .write _ _ => Except IoFault Unit
  | .tree _ => Except IoFault FileTree
  | .makeTemporary _ => Except IoFault String
  | .removeTree _ => Except IoFault Unit
  | .randomBytes count => { bs : Bytes // bs.length = count }
  | .run _ => Except IoFault CommandResult

/-- The requests to the machine. -/
@[reducible] def Machine : Signature := ⟨MachineRequest, MachineRequest.Answer⟩

/-- A computation that asks the machine. -/
abbrev MachineJob (α : Type) : Type := Dialogue Machine α

/-- Makes one request to the machine. -/
def MachineJob.call (r : MachineRequest) : MachineJob r.Answer := Dialogue.ask r .done

end EtcdBackup
