import EtcdBackup.Text.Blank

/-!
# Paths

A path is a text with slashes between its parts; empty parts and dots in the middle do not count.
`Path.fileName?` is the last part, if that is a name and does not lead upwards.
-/

set_option autoImplicit false
set_option relaxedAutoImplicit false

namespace EtcdBackup.Path

/-- The parts of a path that count. -/
def parts (path : String) : List String :=
  (Text.splitOn '/' path).filter fun part ↦ part ≠ "" ∧ part ≠ "."

/-- The last part of a path, if it is a name. -/
def fileName? (path : String) : Option String :=
  match (parts path).getLast? with
  | some part => if part = ".." then none else some part
  | none => none

/-- A path inside a directory. -/
def join (directory name : String) : String :=
  if name.startsWith "/" then name
  else if directory.endsWith "/" ∨ directory = "" then directory ++ name
  else directory ++ "/" ++ name

end EtcdBackup.Path
