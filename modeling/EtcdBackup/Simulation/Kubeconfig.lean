import EtcdBackup.Json.Decode
import EtcdBackup.Json.Parser
import EtcdBackup.Kubernetes.Access

/-!
# Scripted kubeconfigs

A kubeconfig names clusters, users and contexts, which pair the two; the current context says
which server is talked to. `Kubeconfig.parse` reads the texts that scripts are made with, which are
JSON or lines of keys with values, and `Kubeconfig.server` follows the current context. Kubeconfigs
come in other forms too, but no script has one.
-/

set_option autoImplicit false
set_option relaxedAutoImplicit false

namespace EtcdBackup.Simulation

/-- A cluster and a user that belong together. -/
structure Kubeconfig.Context where
  cluster : String
  user : Option String

/-- A value under a name. -/
structure Kubeconfig.Named (α : Type) where
  name : String
  value : Option α

/-- Who talks to which server. -/
structure Kubeconfig where
  /-- The servers by the name of their cluster. -/
  clusters : List (Kubeconfig.Named (Option String)) := []
  users : List (Kubeconfig.Named Unit) := []
  contexts : List (Kubeconfig.Named Kubeconfig.Context) := []
  current : Option String := none

namespace Kubeconfig

/-- Reads a list in which null stands for the empty one. -/
def listOrNull {α : Type} (decode : Decoder α) : Decoder (List α) := fun j ↦
  if j.isNull then .ok [] else Decoder.list decode j

/-- Reads a value under a name. -/
def named {α : Type} (kind key : String) (decode : Decoder α) : Decoder (Named α) :=
  let fields := (Fields.start Named.mk)
    |>.required "name" Decoder.string
    |>.optional key decode
  fields.decode kind

/-- Reads a cluster. -/
def cluster : Decoder (Option String) :=
  let fields := (Fields.start id)
    |>.default "server" (Decoder.option Decoder.string) none
    |>.check "insecure-skip-tls-verify" (Decoder.option Decoder.bool)
    |>.checkAll ["certificate-authority", "certificate-authority-data", "proxy-url",
      "tls-server-name"] (Decoder.option Decoder.string)
  fields.decodeObject "struct Cluster"

/-- Reads a user. -/
def user : Decoder Unit :=
  let fields := (Fields.start ()).checkAll
    ["username", "password", "token", "tokenFile", "client-certificate", "client-certificate-data",
      "client-key", "client-key-data", "as"] (Decoder.option Decoder.string)
  fields.decodeObject "struct AuthInfo"

/-- Reads a context. -/
def context : Decoder Context :=
  let fields := (Fields.start Context.mk)
    |>.required "cluster" Decoder.string
    |>.optional "user" Decoder.string
    |>.check "namespace" (Decoder.option Decoder.string)
  fields.decodeObject "struct Context"

/-- The fields of a kubeconfig. -/
def fields : Fields Kubeconfig :=
  (Fields.start Kubeconfig.mk)
    |>.default "clusters" (listOrNull (named "NamedCluster" "cluster" cluster)) []
    |>.default "users" (listOrNull (named "NamedAuthInfo" "user" user)) []
    |>.default "contexts" (listOrNull (named "NamedContext" "context" context)) []
    |>.default "current-context" (Decoder.option Decoder.string) none
    |>.checkAll ["kind", "apiVersion"] (Decoder.option Decoder.string)

/-- Whether a line holds nothing. -/
def isBlankLine (line : String) : Bool :=
  match Text.trimStart line.toList with
  | [] => true
  | c :: _ => c = '#'

/-- The key and the value of a line. -/
def entryOfLine? (line : String) : Option (String × Json) :=
  let rec split (done : List Char) : List Char → Option (String × String)
    | [':'] => some (String.ofList done.reverse, "")
    | ':' :: ' ' :: rest => some (String.ofList done.reverse, String.ofList rest)
    | c :: rest => split (c :: done) rest
    | [] => none
  match split [] line.toList with
  | some (key, value) =>
    let plain := key.toList.head?.all fun c ↦ c.isAlphanum || c = '_' || c = ':'
    if !key.isEmpty && plain then
      let value := Text.trim value
      some (key, if value.isEmpty then .null else (Json.parse value).getD (.string value))
    else none
  | none => none

/-- The entries of lines. -/
def entriesOfLines? : List String → Option (List (String × Json))
  | [] => some []
  | line :: rest =>
    if isBlankLine line then entriesOfLines? rest
    else do
      let entry ← entryOfLine? line
      let others ← entriesOfLines? rest
      some (entry :: others)

/-- The value of a document, `none` if it has no form. -/
def document? (text : String) : Option Json :=
  match Json.parse text with
  | some j => some j
  | none => (entriesOfLines? (Text.splitOn '\n' text)).map Json.ofFields

/-- Reads a kubeconfig off its text. -/
def parse (text : String) : Except AccessFault Kubeconfig :=
  match document? text with
  | none => .error (.unreadable "no document")
  | some j =>
    match fields.decodeObject "struct Kubeconfig" j with
    | .ok config => .ok config
    | .error e => .error (.unreadable e.message)

/-- The value under a name, if there is one. -/
def find? {α : Type} (name : String) (entries : List (Named α)) : Option α :=
  (entries.find? (·.name = name)).bind (·.value)

/-- The server of the current context. -/
def server (config : Kubeconfig) : Except AccessFault Uri :=
  let unusable (detail : String) : Except AccessFault Uri :=
    .error (.unusable detail)
  match config.current with
  | none => unusable "no current context"
  | some name =>
    match find? name config.contexts with
    | none => unusable "unknown context"
    | some context =>
      match find? context.cluster config.clusters with
      | none => unusable "unknown cluster"
      | some address =>
        if context.user.any fun user ↦ (find? user config.users).isNone then
          unusable "unknown user"
        else
          match address with
          | none => unusable "no server"
          | some address =>
            match Uri.parse address with
            | .ok uri => .ok uri
            | .error e => unusable e.message

/-- The server that a kubeconfig leads to. -/
def serverOfText (text : String) : Except AccessFault Uri := do
  let config ← parse text
  config.server

end Kubeconfig

end EtcdBackup.Simulation
