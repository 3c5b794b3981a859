import EtcdBackup.Machine
import EtcdBackup.Target

/-!
# TLS material from files

The client certificates for the management cluster come from three files; they are only read if
all three are named.
-/

set_option autoImplicit false
set_option relaxedAutoImplicit false

namespace EtcdBackup

/-- Reads a file. -/
def readFile (path : String) : ExceptT Error (Dialogue Machine) Bytes :=
  ExceptT.mk (Except.mapError Error.io <$> MachineJob.call (.read path))

/-- Reads TLS material from its files. -/
def TlsMaterial.ofFiles (ca cert key : String) :
    ExceptT Error (Dialogue Machine) TlsMaterial := do
  let ca ← readFile ca
  let cert ← readFile cert
  let key ← readFile key
  pure { ca := ca, cert := cert, key := key }

/-- The settings of a v3 datastore whose TLS material is in files. -/
def V3Settings.ofFiles (endpoints ca cert key : String) :
    ExceptT Error (Dialogue Machine) V3Settings := do
  if ca.isEmpty || cert.isEmpty || key.isEmpty then
    pure { endpoints := endpoints }
  else
    let tls ← TlsMaterial.ofFiles ca cert key
    pure { endpoints := endpoints, tls := some tls }

end EtcdBackup
