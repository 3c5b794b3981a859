import EtcdBackup.Error
import EtcdBackup.Json.Basic
import EtcdBackup.Provider
import EtcdBackup.Text.Percent

/-!
# Requests to an API server

A request names an object or a list of objects by its address and may carry a JSON body. Names
become part of the address as they are, so that a name with a sign that addresses cannot hold
makes no request at all. `ApiRequest.line` is the request in one line, for people.
-/

set_option autoImplicit false
set_option relaxedAutoImplicit false

namespace EtcdBackup

/-- What a request does. -/
inductive ApiRequest.Method
  | get
  | delete
  | patch
  deriving DecidableEq, Repr

/-- The name of a method. -/
def ApiRequest.Method.name : ApiRequest.Method → String
  | .get => "GET"
  | .delete => "DELETE"
  | .patch => "PATCH"

/-- The body of a request. -/
structure ApiRequest.Body where
  contentType : String
  content : Json

/-- A request to an API server. -/
structure ApiRequest where
  method : ApiRequest.Method
  target : Uri.Target
  body : Option ApiRequest.Body := none

/-- The objects of one type, of all namespaces or of one. -/
structure ObjectPath where
  resource : ApiResource
  namespaceName : Option String := none

namespace ObjectPath

/-- The address of the list of objects. -/
def text (p : ObjectPath) : String :=
  let root := if p.resource.group.isEmpty then "/api/" ++ p.resource.version
    else "/apis/" ++ p.resource.apiVersion
  let inside := match p.namespaceName with
    | none => ""
    | some name => "namespaces/" ++ name ++ "/"
  root ++ "/" ++ inside ++ p.resource.plural

end ObjectPath

namespace ApiRequest

/-- A parameter in the query of an address. -/
def parameterText (parameter : String × String) : String :=
  Percent.encodeForm parameter.1 ++ "=" ++ Percent.encodeForm parameter.2

/-- A request to an address, with parameters for the query. -/
def build (method : Method) (address : String) (parameters : List (String × String))
    (body : Option Body) : Except KubeError ApiRequest :=
  let query := String.join (parameters.map fun p ↦ "&" ++ parameterText p)
  match Uri.parse (address ++ "?" ++ query) with
  | .ok uri => .ok ⟨method, uri.target, body⟩
  | .error e => .error (.request (.invalidUri e))

/-- A request about one object. -/
def ofName (method : Method) (objects : ObjectPath) (name suffix : String)
    (body : Option Body) : Except KubeError ApiRequest :=
  if name.isEmpty then .error (.request .emptyName)
  else build method (objects.text ++ "/" ++ name ++ suffix) [] body

/-- Asks for a list of objects. -/
def list (objects : ObjectPath) (parameters : List (String × String)) :
    Except KubeError ApiRequest :=
  build .get objects.text parameters none

/-- Asks for one object. -/
def get (objects : ObjectPath) (name : String) : Except KubeError ApiRequest :=
  ofName .get objects name "" none

/-- Deletes one object. -/
def delete (objects : ObjectPath) (name : String) : Except KubeError ApiRequest :=
  ofName .delete objects name "" (some ⟨"application/json", .object []⟩)

/-- Merges into the status of one object. -/
def patchStatus (objects : ObjectPath) (name : String) (patch : Json) :
    Except KubeError ApiRequest :=
  ofName .patch objects name "/status" (some ⟨"application/merge-patch+json", patch⟩)

/-- The parameters of a request in ascending order, without percent signs. -/
def parameters (r : ApiRequest) : List String :=
  (((Text.splitOn '&' (r.target.query.getD "")).filter (· ≠ "")).map Percent.decodeForm).mergeSort
    fun a b ↦ a ≤ b

/-- The method and the path of a request. -/
def pathLine (r : ApiRequest) : String := r.method.name ++ " " ++ Percent.decode r.target.path

/-- A request in one line. -/
def line (r : ApiRequest) : String :=
  match r.parameters with
  | [] => r.pathLine
  | parameters => r.pathLine ++ "?" ++ String.intercalate "&" parameters

end ApiRequest

end EtcdBackup
