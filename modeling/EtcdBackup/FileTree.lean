import EtcdBackup.Bytes

/-!
# Trees of files

A file, or a directory with its entries: what is packed into an archive and unpacked from one.
-/

set_option autoImplicit false
set_option relaxedAutoImplicit false

namespace EtcdBackup

/-- A file or a directory. -/
inductive FileTree
  | file (content : Bytes)
  | directory (entries : List (String × FileTree))
  deriving Inhabited

end EtcdBackup
