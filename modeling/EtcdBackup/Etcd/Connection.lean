import EtcdBackup.Effect
import EtcdBackup.Etcd.Pem

/-!
# Reaching an etcd server

The endpoints of a v3 datastore are checked one after another before the first call is made: TLS
material goes with encrypted addresses only, an address has to be one, and material has to hold a
certificate and a key. An endpoint without a scheme is encrypted exactly if there is material.
-/

set_option autoImplicit false
set_option relaxedAutoImplicit false

namespace EtcdBackup.Etcd

/-- The endpoints between the commas of a setting. -/
def endpoints (setting : String) : List String :=
  ((Text.splitOn ',' setting).map Text.trim).filter (· ≠ "")

/-- Whether TLS material can be used for a connection. -/
def isUsable (tls : TlsMaterial) : Bool :=
  (Pem.sections? tls.ca).isSome && Pem.hasCertificate tls.cert && Pem.hasPrivateKey tls.key

/-- Refuses what is no address. -/
def checkAddress (address : String) : Except EtcdFault Unit :=
  match Uri.parse address with
  | .ok _ => .ok ()
  | .error fault => .error (.invalidUri fault)

/-- Refuses an encrypted address, or TLS material that cannot be used. -/
def checkEncrypted (tls : Option TlsMaterial) (address : String) : Except EtcdFault Unit := do
  checkAddress address
  if tls.all isUsable then .ok () else .error .transport

/-- Refuses an endpoint that cannot be connected to. -/
def checkEndpoint (tls : Option TlsMaterial) (endpoint : String) : Except EtcdFault Unit :=
  if endpoint.startsWith "http://" then
    if tls.isSome then .error .tlsWithoutHttps else checkAddress endpoint
  else if endpoint.startsWith "https://" then checkEncrypted tls endpoint
  else if tls.isSome then checkEncrypted tls ("https://" ++ endpoint)
  else checkAddress ("http://" ++ endpoint)

/-- Refuses endpoints of which one cannot be connected to, or none at all. -/
def checkEndpoints (tls : Option TlsMaterial) (endpoints : List String) :
    Except EtcdFault Unit := do
  endpoints.forM (checkEndpoint tls)
  if endpoints.isEmpty then .error .noEndpoints else .ok ()

/-- The server that settings lead to. -/
def server (s : V3Settings) : ExceptT Error (Dialogue Effects) EtcdServer := do
  match s.proxy with
  | none => do
    let endpoints := endpoints s.endpoints
    (checkEndpoints s.tls endpoints).mapError Error.etcd
    pure (.direct endpoints)
  | some target => do
    let _ ← Work.access target.kubeconfig
    (checkEncrypted s.tls "https://127.0.0.1").mapError Error.etcd
    pure (.forwarded target)

end EtcdBackup.Etcd
