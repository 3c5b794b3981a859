import EtcdBackup.Simulation.ApiTable
import EtcdBackup.Simulation.Etcdctl
import EtcdBackup.Simulation.Kubeconfig

/-!
# Scripted surroundings

Everything that lies outside the operator, in memory: clocks that stand still, files, an API server
with a table of answers, an etcd server and an object store. Requests are kept until they are
looked at.
-/

set_option autoImplicit false
set_option relaxedAutoImplicit false

namespace EtcdBackup.Simulation

/-- What an etcd server that cannot be reached answers. -/
def unreachable : EtcdFault := .call "Unavailable" "tcp connect error"

/-- The answers of an etcd server. -/
structure EtcdScript where
  status : Except EtcdFault (Option Int) := .error unreachable
  compact : Except EtcdFault Unit := .error unreachable
  defragment : Except EtcdFault Unit := .error unreachable
  snapshot : Except EtcdFault SnapshotStream := .error unreachable

/-- The state of everything outside the operator. -/
structure Surroundings where
  /-- The time at the beginning. -/
  start : Instant
  /-- The number of readings of the clock. -/
  readings : Nat := 0
  /-- The time passed in pauses. -/
  elapsed : Duration := .zero
  files : Files := {}
  /-- The number of temporary directories made so far. -/
  temporaries : Nat := 0
  /-- Whether etcdctl is there. -/
  hasEtcdctl : Bool := false
  /-- The commands run since the last look, the latest first. -/
  commands : List Command := []
  api : ApiTable := ∅
  /-- The requests to the API server since the last look, the latest first. -/
  requests : List ApiRequest := []
  etcd : EtcdScript := {}
  /-- Why nothing can be stored, if nothing can. -/
  storeFailure : Option String := none
  /-- The stored objects: bucket, key and content, the latest first. -/
  objects : List (String × String × Bytes) := []
  /-- The noted events, the latest first. -/
  events : List Discovery.Event := []
  deriving Inhabited

namespace Surroundings

/-- The path of a temporary directory. -/
def temporaryPath (namePrefix : String) (number : Nat) : String :=
  "/tmp/" ++ namePrefix ++ toString number

/-- Runs a command; only etcdctl can be there. -/
def runCommand (command : Command) : StateM Surroundings (Except IoFault CommandResult) :=
  fun s ↦
    if s.hasEtcdctl ∧ command.program = "etcdctl" then
      let (result, files) := Etcdctl.run s.files command
      (result, { s with files := files, commands := command :: s.commands })
    else (.error .notFound, s)

/-- The result of a change of the files. -/
def changeFiles (result : Except IoFault Files) : StateM Surroundings (Except IoFault Unit) :=
  fun s ↦
    match result with
    | .ok files => (.ok (), { s with files := files })
    | .error e => (.error e, s)

/-- Answers a request to the machine. -/
def handleMachine : (r : MachineRequest) → StateM Surroundings r.Answer
  | .read path => fun s ↦ (s.files.read path, s)
  | .write path content => fun s ↦ changeFiles (s.files.write path content) s
  | .tree path => fun s ↦ (s.files.tree path, s)
  | .makeTemporary namePrefix => fun s ↦
    let path := temporaryPath namePrefix s.temporaries
    (.ok path,
      { s with files := s.files.add path .directory, temporaries := s.temporaries + 1 })
  | .removeTree path => fun s ↦ changeFiles (s.files.removeTree path) s
  | .randomBytes count => fun s ↦ (⟨List.replicate count 0x5A, List.length_replicate⟩, s)
  | .run command => runCommand command

/-- Answers a request to an API server; only that of the management cluster is there. -/
def handleApi (server : ApiServer) (r : ApiRequest) :
    StateM Surroundings (Except String ApiResponse) := fun s ↦
  match server with
  | .workload _ => (.error "client error (Connect)", s)
  | .management =>
    let count := s.requests.countP fun earlier ↦ earlier.line = r.line
    let answer := match s.api.reply r count with
      | .respond response => .ok response
      | .breakOff reason => .error reason
    (answer, { s with requests := r :: s.requests })

/-- Answers a call to an etcd server. -/
def handleEtcd (script : EtcdScript) : (c : EtcdCall) → c.Answer
  | .status => script.status
  | .compact _ => script.compact
  | .defragment => script.defragment
  | .snapshot => script.snapshot

/-- Answers a request. -/
def handle : (e : Effect) → StateM Surroundings e.Answer
  | .now => fun s ↦
    let nanos := s.start.nanos + 1000 * (s.readings + 1)
    let t := (Instant.ofUnix? s.start.seconds nanos).getD s.start
    (t, { s with readings := s.readings + 1 })
  | .stopwatch => fun s ↦ (s.elapsed, s)
  | .sleep d => fun s ↦ ((), { s with elapsed := s.elapsed + d })
  | .machine r => handleMachine r
  | .api server r => handleApi server r
  | .access kubeconfig => fun s ↦ (Kubeconfig.serverOfText kubeconfig, s)
  | .etcd _ _ c => fun s ↦ (handleEtcd s.etcd c, s)
  | .put store key content => fun s ↦
    match s.storeFailure with
    | some detail => (.error detail, s)
    | none => (.ok (), { s with objects := (store.bucket, key, content) :: s.objects })
  | .note event => fun s ↦ ((), { s with events := event :: s.events })

/-- Runs a computation in the surroundings. -/
def run {α : Type} (work : Work α) (s : Surroundings) : α × Surroundings :=
  (Dialogue.run handle work).run s

/-- Runs a computation on the machine in the surroundings. -/
def runMachine {α : Type} (job : MachineJob α) (s : Surroundings) : α × Surroundings :=
  (Dialogue.run handleMachine job).run s

/-- The requests to the API server since the last look, in order, and fresh surroundings for the
next. -/
def takeRequests (s : Surroundings) : List ApiRequest × Surroundings :=
  (s.requests.reverse, { s with requests := [] })

/-- The commands since the last look, in order. -/
def takeCommands (s : Surroundings) : List Command × Surroundings :=
  (s.commands.reverse, { s with commands := [] })

end Surroundings

end EtcdBackup.Simulation
