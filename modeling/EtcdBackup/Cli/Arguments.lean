import EtcdBackup.Keyed
import EtcdBackup.Settings

/-!
# Arguments of the command line

Options are long, each at most once, with the value behind an equals sign or in the next argument;
a value in an argument of its own does not begin with a dash, unless it is one. Some values can
come from the environment instead. The arguments are read from left to right, and the first that
asks for help, or that is wrong, decides.
-/

set_option autoImplicit false
set_option relaxedAutoImplicit false

namespace EtcdBackup.Cli

/-- What may stand as the value of an option. -/
inductive ValueKind
  /-- The option has no value. -/
  | none
  | text
  /-- A path, which is not empty. -/
  | path
  /-- A whole number up to a limit; a signed one may be written as minus zero. -/
  | number (limit : Nat) (signed : Bool)
  deriving DecidableEq

/-- An option. -/
structure OptionSpec where
  name : String
  kind : ValueKind
  /-- The variable of the environment that the value can come from. -/
  environment : Option String := Option.none

/-- The options. -/
def options : List OptionSpec := [
  ⟨"crd", .none, none⟩,
  ⟨"decrypt", .path, none⟩,
  ⟨"installation", .text, some "INSTALLATION"⟩,
  ⟨"skip-management-cluster-backup", .none, none⟩,
  ⟨"bucket", .text, some "S3_BUCKET"⟩,
  ⟨"region", .text, some "S3_REGION"⟩,
  ⟨"s3-endpoint", .text, some "S3_ENDPOINT"⟩,
  ⟨"s3-force-path-style", .none, none⟩,
  ⟨"etcdv2-datadir", .text, none⟩,
  ⟨"etcdv3-endpoints", .text, none⟩,
  ⟨"etcdv3-cacert", .text, none⟩,
  ⟨"etcdv3-cert", .text, none⟩,
  ⟨"etcdv3-key", .text, none⟩,
  ⟨"max-attempts", .number (UInt32.size - 1) true, none⟩,
  ⟨"retry-delay-secs", .number (UInt64.size - 1) false, none⟩,
  ⟨"retention-secs", .number (UInt64.size - 1) false, none⟩,
  ⟨"skipped-retention-secs", .number (UInt64.size - 1) false, none⟩,
  ⟨"azure-min-version", .text, none⟩,
  ⟨"encryption-password", .text, some "ENCRYPTION_PASSWORD"⟩]

/-- Why the program ends before it begins. -/
inductive Stop
  | help
  | version
  /-- The arguments are wrong. -/
  | usage (complaint : String)
  deriving DecidableEq

/-- The whole number that a text spells, up to a limit; `signed` allows a minus before zero. -/
def number? (limit : Nat) (signed : Bool) (s : String) : Option Nat :=
  let (digits, limit) := match signed, s.toList with
    | _, '+' :: rest => (rest, limit)
    | true, '-' :: rest => (rest, 0)
    | _, cs => (cs, limit)
  if digits.isEmpty || !digits.all Char.isDigit then none
  else
    let n := digits.foldl (fun n c ↦ 10 * n + (c.toNat - 48)) 0
    if n ≤ limit then some n else none

/-- Whether a text may stand as a value. -/
def ValueKind.accepts : ValueKind → String → Bool
  | .none, _ => false
  | .text, _ => true
  | .path, s => !s.isEmpty
  | .number limit signed, s => (number? limit signed s).isSome

/-- The options given so far, with their values. -/
abbrev Given : Type := Keyed String

/-- Takes in an option with its value. -/
def accept (given : Given) (spec : OptionSpec) (value : String) : Except Stop Given :=
  if given.contains spec.name then
    .error (.usage s!"the argument --{spec.name} cannot be used multiple times")
  else if spec.kind.accepts value then .ok (given.insert spec.name value)
  else .error (.usage s!"invalid value for --{spec.name}")

/-- Takes in an option without a value. -/
def acceptFlag (given : Given) (spec : OptionSpec) : Except Stop Given :=
  if given.contains spec.name then
    .error (.usage s!"the argument --{spec.name} cannot be used multiple times")
  else .ok (given.insert spec.name "")

/-- The name and the value in a long option. -/
def splitLong (cs : List Char) : String × Option String :=
  match cs.dropWhile (· ≠ '=') with
  | [] => (String.ofList cs, none)
  | _ :: value => (String.ofList (cs.takeWhile (· ≠ '=')), some (String.ofList value))

/-- Whether an argument can be the value of the option in front of it. -/
def isValue (argument : String) : Bool := argument = "-" || !argument.startsWith "-"

/-- What a short option asks for. -/
def short (c : Char) : Stop :=
  if c = 'h' then .help
  else if c = 'V' then .version
  else .usage "unexpected argument"

/-- Reads the arguments. -/
def read (given : Given) : List String → Except Stop Given
  | [] => .ok given
  | argument :: rest =>
    match argument.toList with
    | ['-', '-'] => if rest.isEmpty then .ok given else .error (.usage "unexpected argument")
    | '-' :: '-' :: cs =>
      let (name, value) := splitLong cs
      if name = "help" ∧ value.isNone then .error .help
      else if name = "version" ∧ value.isNone then .error .version
      else
        match options.find? (·.name = name), value, rest with
        | none, _, _ => .error (.usage s!"unexpected argument --{name}")
        | some ⟨name, .none, _⟩, none, rest => do
          read (← acceptFlag given ⟨name, .none, none⟩) rest
        | some ⟨name, .none, _⟩, some _, _ =>
          .error (.usage s!"unexpected value for --{name}")
        | some spec, some value, rest => do read (← accept given spec value) rest
        | some spec, none, value :: rest => do
          if isValue value then read (← accept given spec value) rest
          else .error (.usage s!"a value is required for --{spec.name}")
        | some spec, none, [] =>
          .error (.usage s!"a value is required for --{spec.name}")
    | '-' :: c :: _ => .error (short c)
    | _ => .error (.usage "unexpected argument")

/-- The options that have to be there unless another task is asked for. -/
def required : List String := ["installation", "bucket", "region"]

/-- The value of an option from the arguments or the environment. -/
def value? (given : Given) (environment : Keyed String) (spec : OptionSpec) : Option String :=
  given.get? spec.name <|> spec.environment.bind environment.get?

/-- The values of the options: those given, and those from the environment. -/
def parse (arguments : List String) (environment : Keyed String) : Except Stop Given := do
  let given ← read ∅ arguments
  let all := Keyed.ofList (options.filterMap fun spec ↦
    (value? given environment spec).map fun v ↦ (spec.name, v))
  if given.contains "crd" && given.contains "decrypt" then
    .error (.usage "the argument --decrypt cannot be used with --crd")
  else if given.contains "crd" || given.contains "decrypt" then .ok all
  else
    match required.find? fun name ↦ !all.contains name with
    | some name => .error (.usage s!"the argument --{name} was not provided")
    | none => .ok all

end EtcdBackup.Cli
