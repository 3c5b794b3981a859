import EtcdBackup.Provider

/-!
# Events of discovery

What is noted while tenant clusters are looked up, with a level and the fields of each event.
-/

set_option autoImplicit false
set_option relaxedAutoImplicit false

namespace EtcdBackup.Discovery

/-- How important an event is. -/
inductive Level
  | debug
  | info
  | warning
  | error
  deriving DecidableEq, Repr

/-- The name of a level. -/
def Level.name : Level → String
  | .debug => "DEBUG"
  | .info => "INFO"
  | .warning => "WARN"
  | .error => "ERROR"

/-- An event while tenant clusters are looked up. -/
inductive Event
  /-- The API server does not know the resource of a provider. -/
  | notServed (provider : Provider)
  | listingFailed (provider : Provider) (error : Error)
  /-- The number of clusters that are looked at. -/
  | found (count : Nat)
  | optedOut (cluster : String)
  | releaseTooOld (cluster : String)
  /-- A cluster is left out. -/
  | unresolved (cluster : String) (provider : Provider) (error : Error)
  deriving DecidableEq

namespace Event

/-- The level of an event. -/
def level : Event → Level
  | .notServed _ | .listingFailed .. | .found _ => .debug
  | .optedOut _ => .info
  | .releaseTooOld _ => .warning
  | .unresolved .. => .error

/-- The wording of an event. -/
def message : Event → String
  | .notServed _ => "provider resource not served, skipping"
  | .listingFailed .. => "failed to list provider clusters"
  | .found _ => "found tenant clusters"
  | .optedOut _ => "backup explicitly skipped by annotation"
  | .releaseTooOld _ => "cluster release is too old for etcd backup"
  | .unresolved .. => "failed to resolve tenant cluster, leaving it out"

/-- The fields of an event by name. -/
def fields : Event → List (String × String)
  | .notServed p => [("provider", p.tag), ("kind", p.resource.kind)]
  | .listingFailed p e =>
    [("provider", p.tag), ("kind", p.resource.kind), ("error", e.message)]
  | .found count => [("count", toString count)]
  | .optedOut cluster | .releaseTooOld cluster => [("cluster", cluster)]
  | .unresolved cluster p e =>
    [("cluster", cluster), ("provider", p.tag), ("error", e.message)]

end Event

end EtcdBackup.Discovery
