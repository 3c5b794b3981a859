import EtcdBackup.Discovery.Event
import EtcdBackup.Kubernetes.Access
import EtcdBackup.Kubernetes.Request
import EtcdBackup.Kubernetes.Response
import EtcdBackup.Machine
import EtcdBackup.Settings

/-!
# What lies outside the operator

The requests that reach beyond the operator: clocks, the machine it runs on, API servers, etcd
servers, the object store, and the log.
-/

set_option autoImplicit false
set_option relaxedAutoImplicit false

namespace EtcdBackup

/-- An API server. -/
inductive ApiServer
  | management
  /-- The server of a workload cluster. -/
  | workload (address : Uri)

/-- An etcd server: its addresses, or the way to it. -/
inductive EtcdServer
  | direct (endpoints : List String)
  | forwarded (target : PortForward)
  deriving DecidableEq

/-- A call to an etcd server. -/
inductive EtcdCall
  | status
  | compact (revision : Int)
  | defragment
  | snapshot

/-- A snapshot as it was received. -/
structure SnapshotStream where
  chunks : List Bytes
  /-- What broke the stream off. -/
  fault : Option EtcdFault
  deriving DecidableEq, Inhabited

/-- The type of the answer to a call. -/
@[reducible] def EtcdCall.Answer : EtcdCall → Type
  /- The revision in the header of the answer, if it has one. -/
  | .status => Except EtcdFault (Option Int)
  | .compact _ => Except EtcdFault Unit
  | .defragment => Except EtcdFault Unit
  | .snapshot => Except EtcdFault SnapshotStream

/-- A request that reaches beyond the operator. -/
inductive Effect
  /-- The time. -/
  | now
  /-- The reading of a clock that never goes back. -/
  | stopwatch
  | sleep (d : Duration)
  | machine (request : MachineRequest)
  /-- Sends a request to an API server; the text says why the connection broke. -/
  | api (server : ApiServer) (request : ApiRequest)
  /-- Looks for the API server that a kubeconfig leads to. -/
  | access (kubeconfig : String)
  | etcd (server : EtcdServer) (tls : Option TlsMaterial) (call : EtcdCall)
  /-- Stores an object; the text says why that failed. -/
  | put (store : S3Settings) (key : String) (content : Bytes)
  /-- Notes an event in the log. -/
  | note (event : Discovery.Event)

/-- The type of the answer to a request. -/
@[reducible] def Effect.Answer : Effect → Type
  | .now => Instant
  | .stopwatch => Duration
  | .sleep _ => Unit
  | .machine r => r.Answer
  | .api _ _ => Except String ApiResponse
  | .access _ => Except AccessFault Uri
  | .etcd _ _ c => c.Answer
  | .put _ _ _ => Except String Unit
  | .note _ => Unit

/-- The requests that reach beyond the operator. -/
@[reducible] def Effects : Signature := ⟨Effect, Effect.Answer⟩

/-- A computation that reaches beyond the operator. -/
abbrev Work (α : Type) : Type := Dialogue Effects α

namespace Work

/-- Makes one request. -/
def call (e : Effect) : Work e.Answer := Dialogue.ask e .done

/-- A computation that only asks the machine. -/
def onMachine {α : Type} (job : MachineJob α) : Work α :=
  job.answeredBy fun r ↦ call (.machine r)

/-- Asks for a value at an API server. -/
def request {α : Type} (server : ApiServer) (request : Except KubeError ApiRequest)
    (decode : Decoder α) : Work (Except KubeError α) := do
  match request with
  | .error e => pure (.error e)
  | .ok request =>
    match ← call (.api server request) with
    | .error text => pure (.error (.service text))
    | .ok response => pure (response.decode decode)

/-- The address of the API server that a kubeconfig leads to. -/
def access (kubeconfig : String) : ExceptT Error (Dialogue Effects) Uri :=
  ExceptT.mk (Except.mapError AccessFault.toError <$> call (.access kubeconfig))

end Work

end EtcdBackup
