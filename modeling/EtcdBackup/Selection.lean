import EtcdBackup.Error
import EtcdBackup.Pattern.Basic
import EtcdBackup.Record.Basic
import EtcdBackup.Target

/-!
# Which targets a request covers

Targets asked for by name come first: each name is a target or is listed with the reason why it is
none. Without names the management cluster is covered, unless it is left out by the settings, and
with `guestBackup` also the supported tenant clusters whose names match the one pattern and do not
match the other, in the order of their names. A search that was given up leaves its cluster out.
-/

set_option autoImplicit false
set_option relaxedAutoImplicit false

namespace EtcdBackup

/-- A name asked for that is no target. -/
structure Unresolved where
  name : String
  reason : String
  deriving DecidableEq, Repr

/-- The targets of a request, and the names that are none. -/
structure Selection where
  targets : List Target := []
  unresolved : List Unresolved := []
  deriving DecidableEq

/-- The patterns of a request; an absent one admits every name. -/
structure NamePatterns where
  included : Option Pattern
  excluded : Option Pattern

namespace Selection

/-- The reason for a name that no tenant cluster has. -/
def notFoundReason : String :=
  "No cluster found with such name or unable to initialize etcd client due to missing data. " ++
    "Please check etcd-backup-operator logs for more details."

/-- The reason for a cluster whose release is too old. -/
def unsupportedReason : String := "Cluster release version does not support etcd backups."

/-- Whether the tenant clusters have to be known. -/
def needsTenants (spec : Spec) : Bool := !spec.clusterNames.isEmpty || spec.guestBackup

/-- Whether the patterns of a request count. -/
def usesPatterns (spec : Spec) : Bool := spec.clusterNames.isEmpty && spec.guestBackup

/-- A pattern of a request; an absent or empty one is no pattern. -/
def compilePattern (field : PatternField) (text : Option String) :
    Except Error (Option Pattern) :=
  match text with
  | none => .ok none
  | some t =>
    if t.isEmpty then .ok none
    else
      match Pattern.compile t with
      | .ok p => .ok (some p)
      | .error e => .error (.validation (.pattern field t e))

/-- The patterns of a request. -/
def compilePatterns (spec : Spec) : Except Error NamePatterns := do
  let included ← compilePattern .included spec.clustersRegex
  let excluded ← compilePattern .excluded spec.clustersToExcludeRegex
  .ok ⟨included, excluded⟩

/-- Refuses a request whose patterns count and cannot be used. -/
def checkPatterns (spec : Spec) : Except Error Unit :=
  if usesPatterns spec then (compilePatterns spec).map fun _ ↦ () else .ok ()

/-- Whether the patterns let a name through. -/
def NamePatterns.accepts (p : NamePatterns) (name : String) : Bool :=
  let included := match p.included with
    | none => true
    | some pattern => pattern.search name = .matched
  let excluded := match p.excluded with
    | none => false
    | some pattern => pattern.search name ≠ .unmatched
  included && !excluded

/-- Whether a name is among the targets or the unresolved names already. -/
def mentions (s : Selection) (name : String) : Bool :=
  s.targets.any (·.name = name) || s.unresolved.any (·.name = name)

/-- Adds what a name stands for, unless it was added before. -/
def addName (management : Target) (tenants : List Target) (s : Selection) (name : String) :
    Selection :=
  if s.mentions name then s
  else if name = managementName then { s with targets := s.targets ++ [management] }
  else
    match tenants.find? (·.name = name) with
    | some t =>
      if t.supported then { s with targets := s.targets ++ [t] }
      else { s with unresolved := s.unresolved ++ [⟨name, unsupportedReason⟩] }
    | none => { s with unresolved := s.unresolved ++ [⟨name, notFoundReason⟩] }

/-- The targets of a list of names. -/
def ofNames (names : List String) (management : Target) (tenants : List Target) : Selection :=
  names.foldl (addName management tenants) {}

/-- The tenant clusters that the patterns let through, in the order of their names. -/
def admitted (p : NamePatterns) (tenants : List Target) : List Target :=
  (tenants.filter fun t ↦ t.supported && NamePatterns.accepts p t.name).mergeSort
    fun a b ↦ a.name ≤ b.name

/-- The targets of a request. -/
def ofSpec (spec : Spec) (management : Target) (skipManagement : Bool) (tenants : List Target) :
    Except Error Selection := do
  if spec.clusterNames.isEmpty then
    let own := if skipManagement then [] else [management]
    if spec.guestBackup then
      let patterns ← compilePatterns spec
      .ok { targets := own ++ admitted patterns tenants }
    else .ok { targets := own }
  else .ok (ofNames spec.clusterNames management tenants)

/-- The names whose search was given up, for one pattern after the other. -/
def gaveUpNames (spec : Spec) (tenants : List Target) : List String :=
  if usesPatterns spec then
    match compilePatterns spec with
    | .error _ => []
    | .ok p =>
      (tenants.filter (·.supported)).flatMap fun t ↦
        [p.included, p.excluded].flatMap fun pattern ↦
          match pattern with
          | some q => if q.search t.name = .gaveUp then [t.name] else []
          | none => []
  else []

end Selection

end EtcdBackup
