import EtcdBackup.Json.Parser
import EtcdBackup.Record.Codec
import EtcdBackup.Error

/-!
# Answers of an API server

A refusal is an answer with a status of 400 to 599; its body says why, and if it does not, the
status and the body stand in for the reason. Any other answer has to hold what was asked for.
-/

set_option autoImplicit false
set_option relaxedAutoImplicit false

namespace EtcdBackup

/-- An answer of an API server. -/
structure ApiResponse where
  status : Nat
  text : String
  deriving Inhabited

namespace ApiResponse

/-- The fields of the body of a refusal. -/
def refusalFields : Fields ApiError :=
  (Fields.start ApiError.mk)
    |>.required "status" Decoder.string
    |>.default "message" Decoder.string ""
    |>.default "reason" Decoder.string ""
    |>.required "code" Decoder.uint16

/-- The standard phrase for a status that refuses a request. -/
def phrase (status : Nat) : String :=
  match status with
  | 400 => "Bad Request"
  | 401 => "Unauthorized"
  | 402 => "Payment Required"
  | 403 => "Forbidden"
  | 404 => "Not Found"
  | 405 => "Method Not Allowed"
  | 406 => "Not Acceptable"
  | 407 => "Proxy Authentication Required"
  | 408 => "Request Timeout"
  | 409 => "Conflict"
  | 410 => "Gone"
  | 411 => "Length Required"
  | 412 => "Precondition Failed"
  | 413 => "Payload Too Large"
  | 414 => "URI Too Long"
  | 415 => "Unsupported Media Type"
  | 416 => "Range Not Satisfiable"
  | 417 => "Expectation Failed"
  | 418 => "I'm a teapot"
  | 421 => "Misdirected Request"
  | 422 => "Unprocessable Entity"
  | 423 => "Locked"
  | 424 => "Failed Dependency"
  | 425 => "Too Early"
  | 426 => "Upgrade Required"
  | 428 => "Precondition Required"
  | 429 => "Too Many Requests"
  | 431 => "Request Header Fields Too Large"
  | 451 => "Unavailable For Legal Reasons"
  | 500 => "Internal Server Error"
  | 501 => "Not Implemented"
  | 502 => "Bad Gateway"
  | 503 => "Service Unavailable"
  | 504 => "Gateway Timeout"
  | 505 => "HTTP Version Not Supported"
  | 506 => "Variant Also Negotiates"
  | 507 => "Insufficient Storage"
  | 508 => "Loop Detected"
  | 510 => "Not Extended"
  | 511 => "Network Authentication Required"
  | _ => "<unknown status code>"

/-- Whether a status refuses a request. -/
def refuses (status : Nat) : Bool := 400 ≤ status && status < 600

/-- The refusal in an answer that refuses. -/
def refusal (r : ApiResponse) : ApiError :=
  match (Json.parse r.text).map (refusalFields.decode "ErrorResponse") with
  | some (.ok e) => e
  | _ =>
    ⟨toString r.status ++ " " ++ phrase r.status, Text.debug r.text,
      "Failed to parse error data", UInt16.ofNat r.status⟩

/-- The value in an answer. -/
def decode {α : Type} (decode : Decoder α) (r : ApiResponse) : Except KubeError α :=
  if refuses r.status then .error (.api r.refusal)
  else
    match Json.parse r.text with
    | none => .error (.response "no JSON")
    | some j => (decode j).mapError fun e ↦ .response e.message

/-- A cause in a report of the server. -/
def causeFields : Fields Unit :=
  (Fields.start ()).checkAll ["reason", "message", "field"] Decoder.string

/-- The details in a report of the server. -/
def detailFields : Fields Unit :=
  ((Fields.start ()).checkAll ["name", "group", "kind", "uid"] Decoder.string)
    |>.check "causes" (Decoder.list (causeFields.decode "StatusCause"))
    |>.check "retryAfterSeconds" Decoder.uint32

/-- The report of the server about a request. -/
def reportFields : Fields Unit :=
  let summary := ["Success", "Failure"]
  let known (s : String) : Option Unit := if summary.contains s then some () else none
  ((Fields.start ()).check "status" (Decoder.option (Decoder.variant summary known)))
    |>.check "code" Decoder.uint16
    |>.checkAll ["message", "reason"] Decoder.string
    |>.check "details" (Decoder.option (detailFields.decode "StatusDetails"))

/-- Reads what a deletion is answered with: a report, or the deleted object. -/
def deletion {α : Type} (decode : Decoder α) : Decoder Unit := fun j ↦
  if (j.getD "kind").asString? = some "Status" then reportFields.decode "Status" j
  else (decode j).map fun _ ↦ ()

/-- Reads a list of objects. -/
def objects {α : Type} (decode : Decoder α) : Decoder (List α) :=
  let metadata :=
    ((Fields.start ()).checkAll ["continue", "resourceVersion", "selfLink"]
        (Decoder.option Decoder.string))
      |>.check "remainingItemCount" (Decoder.option Decoder.int64)
  let items : Decoder (List α) := fun j ↦
    if j.isNull then .ok [] else Decoder.list decode j
  let fields := ((Fields.start id).check "metadata" (metadata.decodeObject "ListMeta"))
    |>.required "items" items
  fields.decodeObject "struct ObjectList"

end ApiResponse

end EtcdBackup
