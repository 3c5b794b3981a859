import EtcdBackup.Controller.Pass

/-!
# A scripted cluster

A `World` answers the operator's requests from memory: a store of records with resource versions,
a list of tenant clusters, and scripts for the backups of each target. It logs every request, and
disturbances that were set up beforehand change the store behind a request or make it fail. Time
stands still but for the pauses that are asked for.
-/

set_option autoImplicit false
set_option relaxedAutoImplicit false

namespace EtcdBackup.Simulation

/-- How one backup goes: the errors of its steps, and what the others return. -/
structure BackupScript where
  factory : Option Error := none
  create : Option Error := none
  encrypt : Option Error := none
  upload : Option Error := none
  cleanup : Option Error := none
  path : Option String := none
  sealedPath : Option String := none
  size : UInt64 := 4096
  /-- The version that the maker claims to be for. -/
  reports : Option Datastore := none
  deriving Inhabited

/-- A change of the store by somebody else. -/
inductive Change
  | create (record : Record)
  | remove (name : String)
  | setSpec (name : String) (spec : Spec)
  | setStatus (name : String) (status : Option Status)

/-- A disturbance: changes and a failure at a later request of a kind. -/
structure Disturbance where
  /-- The first word of the requests' log lines. -/
  word : String
  /-- How many more such requests there are up to the one that is disturbed. -/
  count : Nat
  changes : List Change
  error : Option Error

/-- The scripts of one target and version, one for each maker of backups. -/
structure ScriptEntry where
  target : String
  version : Datastore
  scripts : List BackupScript

/-- The state of a scripted cluster. -/
structure World where
  records : Keyed Record := ∅
  /-- The requests since the last look, the latest first. -/
  log : List String := []
  disturbances : List Disturbance := []
  tenants : Except Error (List Target) := .ok []
  scripts : List ScriptEntry := []
  /-- The scripts of the makers of backups opened so far, with what they are for. -/
  opened : Array (String × Datastore × BackupScript) := #[]
  /-- The time passed in pauses. -/
  elapsed : Duration := .zero
  /-- The time at the beginning. -/
  start : Instant
  /-- The number of readings of the clock. -/
  readings : Nat := 0
  metrics : Metrics := {}
  deriving Inhabited

namespace World

/-- The resource version of a record as a number. -/
def versionNumber (r : Record) : Nat := ((r.metadata.resourceVersion.bind String.toNat?).getD 0)

/-- The record with its resource version raised. -/
def bump (r : Record) : Record :=
  { r with metadata :=
    { r.metadata with resourceVersion := some (toString (versionNumber r + 1)) } }

/-- The refusal of a request for a missing record. -/
def missing (name : String) : Error :=
  .kube (.api ⟨"Failure", "etcdbackups \"" ++ name ++ "\" not found", "NotFound", 404⟩)

/-- Carries out a change; `none` if the record is missing. -/
def changed? (w : World) : Change → Option World
  | .create record =>
    let metadata := { record.metadata with resourceVersion := some "1" }
    some { w with records := w.records.insert record.name { record with metadata := metadata } }
  | .remove name => some { w with records := w.records.erase name }
  | .setSpec name spec =>
    (w.records.get? name).map fun r ↦
      { w with records := w.records.insert name (bump { r with spec := spec }) }
  | .setStatus name status =>
    (w.records.get? name).map fun r ↦
      { w with records := w.records.insert name (bump { r with status := status }) }

/-- Carries out a change where it can be. -/
def apply (w : World) (c : Change) : World := (w.changed? c).getD w

/-- Counts a request down in the disturbances: those left, and those due. -/
def countDown (word : String) : List Disturbance → List Disturbance × List Disturbance
  | [] => ([], [])
  | d :: rest =>
    let (left, due) := countDown word rest
    if d.word = word then
      if d.count ≤ 1 then (left, d :: due) else ({ d with count := d.count - 1 } :: left, due)
    else (d :: left, due)

/-- Logs a request and lets the disturbances that are due happen; the error they raise. -/
def disturb (word line : String) : StateM World (Option Error) := fun w ↦
  let (left, due) := countDown word w.disturbances
  let w := { w with log := line :: w.log, disturbances := left }
  let w := due.foldl (fun w d ↦ d.changes.foldl apply w) w
  (due.findSome? (·.error), w)

/-- The log line of a request: its word and what it is about, if that is not empty. -/
def logLine (word subject : String) : String :=
  if subject.isEmpty then word else word ++ " " ++ subject

/-- Answers a request that is logged, unless a disturbance makes it fail. -/
def answer {α : Type} (word subject : String) (act : StateM World (Except Error α)) :
    StateM World (Except Error α) := do
  match ← disturb word (logLine word subject) with
  | some e => pure (.error e)
  | none => act

/-- The next script of a target and version; an empty one when they are used up. -/
def takeScript (target : String) (version : Datastore) : StateM World BackupScript := fun w ↦
  match w.scripts.find? fun e ↦ e.target = target && e.version = version with
  | some ⟨_, _, script :: rest⟩ =>
    let scripts := w.scripts.map fun e ↦
      if e.target = target && e.version = version then { e with scripts := rest } else e
    (script, { w with scripts := scripts })
  | _ => ({}, w)

/-- Replaces the scripts of a target and version. -/
def setScripts (w : World) (target : String) (version : Datastore)
    (scripts : List BackupScript) : World :=
  let others := w.scripts.filter fun e ↦ !(e.target = target && e.version = version)
  { w with scripts := ⟨target, version, scripts⟩ :: others }

/-- What a maker of backups is for, and its script. -/
def maker (w : World) (id : Nat) : String × Datastore × BackupScript :=
  w.opened.getD id ("", .v2, {})

/-- The path of the artifact of a maker. -/
def artifactPath (maker : String × Datastore × BackupScript) : String :=
  maker.2.2.path.getD s!"/tmp/ws/{maker.1}-{maker.2.1.tag}.tar.gz"

/-- The path of the sealed artifact of a maker. -/
def sealedArtifactPath (maker : String × Datastore × BackupScript) : String :=
  maker.2.2.sealedPath.getD (Backup.sealedPath (artifactPath maker))

/-- An error, or a value. -/
def orError {α : Type} (e : Option Error) (a : α) : Except Error α :=
  match e with
  | some e => .error e
  | none => .ok a

/-- Writes the status of a record, if it is still the one that was read. -/
def update (record : Record) : StateM World (Except Error Unit) := fun w ↦
  match w.records.get? record.name with
  | none => (.error (missing record.name), w)
  | some stored =>
    if stored.metadata.resourceVersion = record.metadata.resourceVersion then
      let next := bump { stored with status := record.status }
      (.ok (), { w with records := w.records.insert record.name next })
    else (.error (.conflict (.modified record.name)), w)

/-- Answers a request. -/
def handle : (c : Call) → StateM World c.Answer
  | .now => fun w ↦
    let nanos := w.start.nanos + 1000 * (w.readings + 1)
    let t := (Instant.ofUnix? w.start.seconds nanos).getD w.start
    (t, { w with readings := w.readings + 1 })
  | .stopwatch => fun w ↦ (w.elapsed, w)
  | .sleep d => fun w ↦ ((), { w with elapsed := w.elapsed + d })
  | .get name => answer "get" name fun w ↦
    match w.records.get? name with
    | some r => (.ok r, w)
    | none => (.error (missing name), w)
  | .list => answer "list" "" fun w ↦ (.ok w.records.values, w)
  | .updateStatus record =>
    let version := record.metadata.resourceVersion.getD ""
    answer "update" s!"{record.name}@{version}" (update record)
  | .delete name => answer "delete" name fun w ↦
    (.ok (), { w with records := w.records.erase name })
  | .discover => answer "discover" "" fun w ↦ (w.tenants, w)
  | .openBackupper target version =>
    answer "backupper" s!"{target.name} {version.tag}" do
      let script ← takeScript target.name version
      let id := (← get).opened.size
      modify fun w ↦ { w with opened := w.opened.push (target.name, version, script) }
      pure (orError script.factory ⟨id, script.reports.getD version⟩)
  | .create b => answer "create" "" fun w ↦
    let m := w.maker b.id
    (orError m.2.2.create (artifactPath m), w)
  | .encrypt b => answer "encrypt" "" fun w ↦
    let m := w.maker b.id
    (orError m.2.2.encrypt (sealedArtifactPath m), w)
  | .upload path => answer "upload" path fun w ↦
    let m := w.maker (w.opened.size - 1)
    (orError m.2.2.upload m.2.2.size, w)
  | .cleanup b => answer "cleanup" "" fun w ↦ (orError (w.maker b.id).2.2.cleanup (), w)
  | .measure x => fun w ↦ ((), { w with metrics := w.metrics.record x })

/-- Runs a computation in the world. -/
def runJob {α : Type} (job : Job α) (w : World) : α × World := (Dialogue.run handle job).run w

/-- The log since the last look, in order, and the world with a fresh one. -/
def takeLog (w : World) : List String × World := (w.log.reverse, { w with log := [] })

/-- A pass that was made. -/
structure MadePass where
  /-- The record as stored afterwards. -/
  stored : Option Record
  result : Except Error Action
  log : List String

/-- Makes passes over a record until it is gone, a pass fails or its cycle has ended. -/
def drive (ctx : Context) (name : String) : Nat → World → List MadePass × World
  | 0, w => ([], w)
  | passes + 1, w =>
    let (result, w) := runJob (Pass.reconcile ctx name) w
    let (log, w) := w.takeLog
    let stored := w.records.get? name
    let isOver := stored.isNone || !result.isOk ||
      (stored.bind (·.status)).any fun s ↦ s.phase.isTerminal
    let (others, w) := if isOver then ([], w) else drive ctx name passes w
    (⟨stored, result, log⟩ :: others, w)

end World

end EtcdBackup.Simulation
