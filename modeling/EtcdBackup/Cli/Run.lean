import EtcdBackup.Cli.Arguments
import EtcdBackup.Crd.Definition
import EtcdBackup.Json.Yaml
import EtcdBackup.SealedFile
import EtcdBackup.TlsFiles

/-!
# The command line

What the program does before it serves: it prints the definition of backup requests, or opens a
sealed file, or checks the settings that it was given.
-/

set_option autoImplicit false
set_option relaxedAutoImplicit false

namespace EtcdBackup.Cli

/-- How a run of the program ends. -/
structure Outcome where
  exitCode : Nat := 0
  stdout : String := ""
  stderr : String := ""
  deriving DecidableEq, Inhabited

/-- What a run of the program comes to. -/
inductive Task
  | finish (outcome : Outcome)
  /-- The settings are in order. -/
  | serve (settings : Settings)

/-- The name of the program. -/
def programName : String := "etcd-backup-operator"

/-- The version of the program. -/
def programVersion : String := "0.1.0"

/-- The first lines of the help. -/
def usageText : String := s!"Usage: {programName} [OPTIONS]\n"

/-- The line about an option. -/
def OptionSpec.help (spec : OptionSpec) : String :=
  let value := match spec.kind with
    | .none => ""
    | .text => " <TEXT>"
    | .path => " <FILE>"
    | .number .. => " <NUMBER>"
  let source := match spec.environment with
    | some name => s!" [env: {name}]"
    | none => ""
  s!"      --{spec.name}{value}{source}\n"

/-- The help. -/
def helpText : String :=
  "etcd backup operator - backs up management and tenant cluster etcd\n\n" ++ usageText ++
    "\nOptions:\n" ++ String.join (options.map OptionSpec.help) ++
    "  -h, --help\n  -V, --version\n"

/-- How a run ends that never began. -/
def Stop.outcome : Stop → Outcome
  | .help => { stdout := helpText }
  | .version => { stdout := s!"{programName} {programVersion}\n" }
  | .usage complaint => { exitCode := 2, stderr := s!"error: {complaint}\n\n{usageText}" }

/-- How a run ends that failed. -/
def failure (message : String) : Outcome := { exitCode := 1, stderr := s!"Error: {message}\n" }

/-- How a run ends in which a file could not be read, with the cause in a paragraph of its own. -/
def failureOf (e : Error) : Outcome :=
  match e with
  | .io cause => failure s!"{e.message}\n\nCaused by:\n    {cause.message}"
  | e => failure e.message

/-- The settings that options ask for. -/
def settings (given : Given) : ExceptT Error (Dialogue Machine) Settings := do
  let defaults : Settings := {}
  let text (name : String) : String := (given.get? name).getD ""
  let number (name : String) (absent : Nat) : Nat :=
    ((given.get? name).bind (number? (UInt64.size - 1) true)).getD absent
  let v3 ← V3Settings.ofFiles (text "etcdv3-endpoints") (text "etcdv3-cacert")
    (text "etcdv3-cert") (text "etcdv3-key")
  pure
    { installation := text "installation"
      skipManagement := given.contains "skip-management-cluster-backup"
      encryptionPassword := text "encryption-password"
      s3 := ⟨text "bucket", text "region", given.get? "s3-endpoint",
        given.contains "s3-force-path-style"⟩
      dataDir := text "etcdv2-datadir"
      v3 := v3
      retry :=
        ⟨UInt32.ofNat (number "max-attempts" defaults.retry.maxAttempts.toNat),
          Duration.ofSeconds (number "retry-delay-secs" defaults.retry.delay.seconds)⟩
      retention :=
        ⟨Duration.ofSeconds (number "retention-secs" defaults.retention.completed.seconds),
          Duration.ofSeconds
            (number "skipped-retention-secs" defaults.retention.skipped.seconds)⟩
      azureMinimum := (given.get? "azure-min-version").getD defaults.azureMinimum }

/-- Opens a sealed file. -/
def decrypt (path passphrase : String) : MachineJob Outcome := do
  if passphrase.isEmpty then
    pure (failure s!"ENCRYPTION_PASSWORD must be set to decrypt {path}")
  else
    match ← SealedFile.openRaw (Utf8.encode path) passphrase with
    | .ok target => pure { stdout := target ++ "\n" }
    | .error e => pure (failure s!"Failed to decrypt {path}: {e.message}")

/-- Carries out what the options ask for. -/
def perform (given : Given) : MachineJob Task := do
  if given.contains "crd" then
    pure (.finish { stdout := Yaml.text Crd.definition ++ "\n" })
  else
    match given.get? "decrypt" with
    | some path => do
      let outcome ← decrypt path ((given.get? "encryption-password").getD "")
      pure (.finish outcome)
    | none =>
      let result ← (settings given).run
      match result with
      | .error e => pure (.finish (failureOf e))
      | .ok settings =>
        match settings.validate with
        | .error e => pure (.finish (failure s!"Invalid settings: {e.message}"))
        | .ok () => pure (.serve settings)

/-- Runs the program. -/
def run (arguments : List String) (environment : Keyed String) : MachineJob Task :=
  match parse arguments environment with
  | .error stop => pure (.finish stop.outcome)
  | .ok given => perform given

end EtcdBackup.Cli
