import EtcdBackup.Keyed
import EtcdBackup.Machine
import EtcdBackup.Path

/-!
# Files in memory

A file system as a map from paths to files and directories. A path is followed name by name from
the root, so that what stands in the way of it is told apart: a missing directory, a file in place
of one, a name that is too long. Two paths to one place are one key of the map.
-/

set_option autoImplicit false
set_option relaxedAutoImplicit false

namespace EtcdBackup

/-- Puts a file or an empty directory at a path inside a tree. -/
def FileTree.put (t : FileTree) (node : FileTree) : List String → FileTree
  | [] =>
    match t, node with
    | .directory entries, .directory [] => .directory entries
    | _, node => node
  | name :: rest =>
    let entries := match t with
      | .directory entries => entries
      | .file _ => []
    let inner := ((entries.lookup name).getD (.directory [])).put node rest
    if (entries.lookup name).isSome then
      .directory (entries.map fun e ↦ if e.1 = name then (name, inner) else e)
    else .directory (entries ++ [(name, inner)])

namespace Simulation

/-- What is at a path. -/
inductive Node
  | file (content : Bytes)
  | directory
  deriving DecidableEq, Inhabited

/-- A file system. -/
structure Files where
  /-- Files and directories by path; the root is always there. -/
  nodes : Keyed Node := ∅
  deriving DecidableEq, Inhabited

namespace Files

/-- The path with the given names, from the root on. -/
def pathOf (names : List String) : String := "/" ++ String.intercalate "/" names

/-- What is at the end of the given names. -/
def nodeAt (fs : Files) (names : List String) : Option Node :=
  if names.isEmpty then some .directory else fs.nodes.get? (pathOf names)

/-- Puts something at the end of the given names. -/
def place (fs : Files) (names : List String) (node : Node) : Files :=
  ⟨fs.nodes.insert (pathOf names) node⟩

/-- The most bytes in a name. -/
def nameLimit : Nat := 255

/-- Follows names from a place that was reached. -/
def follow (fs : Files) (reached : List String) : List String → Except IoFault (List String)
  | [] => .ok reached
  | name :: rest =>
    match fs.nodeAt reached with
    | none => .error .notFound
    | some (.file _) => .error .notADirectory
    | some .directory =>
      if name = ".." then follow fs reached.dropLast rest
      else if nameLimit < name.utf8ByteSize then .error .nameTooLong
      else follow fs (reached ++ [name]) rest

/-- The names from the root to where a path leads; there need not be anything. -/
def locate (fs : Files) (path : String) : Except IoFault (List String) :=
  if path.isEmpty then .error .notFound
  else if path.toList.contains (Char.ofNat 0) then .error .nulInPath
  else fs.follow [] (Path.parts path)

/-- Whether a path can only lead to a directory. -/
def namesDirectory (path : String) : Bool := path.endsWith "/" || path.endsWith "/."

/-- The content of a file. -/
def read (fs : Files) (path : String) : Except IoFault Bytes := do
  match fs.nodeAt (← fs.locate path) with
  | none => .error .notFound
  | some .directory => .error .isADirectory
  | some (.file content) =>
    if namesDirectory path then .error .notADirectory else .ok content

/-- Writes a file. -/
def write (fs : Files) (path : String) (content : Bytes) : Except IoFault Files := do
  let names ← fs.locate path
  match fs.nodeAt names with
  | some .directory => .error .isADirectory
  | some (.file _) =>
    if namesDirectory path then .error .notADirectory
    else .ok (fs.place names (.file content))
  | none =>
    if namesDirectory path then .error .isADirectory
    else .ok (fs.place names (.file content))

/-- Makes a directory with all that it is in. -/
def makeDirectories (fs : Files) (reached : List String) : List String → Files
  | [] => fs
  | name :: rest =>
    let here := reached ++ [name]
    let fs := if (fs.nodeAt here).isSome then fs else fs.place here .directory
    makeDirectories fs here rest

/-- Puts a file or a directory at a path, with all directories that it is in. -/
def add (fs : Files) (path : String) (node : Node) : Files :=
  let names := Path.parts path
  (fs.makeDirectories [] names.dropLast).place names node

/-- The files and directories in a directory by the names behind it. -/
def inside (fs : Files) (directory : List String) : List (List String × Node) :=
  fs.nodes.entries.filterMap fun (path, node) ↦
    let names := Path.parts path
    if directory.isPrefixOf names ∧ directory.length < names.length then
      some (names.drop directory.length, node)
    else none

/-- The files in a directory, by the names that lead to them. -/
def filesIn (fs : Files) (directory : String) : List (String × Bytes) :=
  let found := (fs.inside (Path.parts directory)).filterMap fun (names, node) ↦
    match node with
    | .file content => some (names, content)
    | .directory => none
  (found.mergeSort fun a b ↦ !List.lex b.1 a.1).map fun (names, content) ↦
    (String.intercalate "/" names, content)

/-- A file or an empty directory. -/
def Node.tree : Node → FileTree
  | .file content => .file content
  | .directory => .directory []

/-- The file or directory at a path. -/
def tree (fs : Files) (path : String) : Except IoFault FileTree := do
  let names ← fs.locate path
  match fs.nodeAt names with
  | none => .error .notFound
  | some (.file content) => .ok (.file content)
  | some .directory =>
    .ok ((fs.inside names).foldl (fun t (names, node) ↦ t.put (Node.tree node) names)
      (.directory []))

/-- Removes a directory with all that is in it. -/
def removeTree (fs : Files) (path : String) : Except IoFault Files := do
  let names ← fs.locate path
  match fs.nodeAt names with
  | none => .error .notFound
  | some _ =>
    .ok ⟨⟨fs.nodes.entries.filter fun e ↦ !names.isPrefixOf (Path.parts e.1),
      fs.nodes.ascending.filter _⟩⟩

end Files

end Simulation

end EtcdBackup
