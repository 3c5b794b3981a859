import EtcdBackup.Effect

/-!
# A scripted API server

A table says what is answered to which request, by the line of the request or by the line without
its query. Several answers for a line are given one after another; the last one stays.
-/

set_option autoImplicit false
set_option relaxedAutoImplicit false

namespace EtcdBackup.Simulation

/-- What happens to a request. -/
inductive Reply
  | respond (response : ApiResponse)
  /-- The connection breaks. -/
  | breakOff (reason : String)
  deriving Inhabited

/-- Answers by the lines of requests. -/
abbrev ApiTable : Type := Keyed (List Reply)

namespace ApiTable

/-- The answer to a request that the table does not know. -/
def unknown : ApiResponse :=
  let message := "the server could not find the requested resource"
  ⟨404, (Json.ofFields [("kind", .string "Status"), ("apiVersion", .string "v1"),
    ("metadata", .object []), ("status", .string "Failure"), ("message", .string message),
    ("reason", .string "NotFound"), ("code", Json.ofNat 404)]).compact⟩

/-- The answers to a request. -/
def replies (t : ApiTable) (r : ApiRequest) : List Reply :=
  ((t.get? r.line <|> t.get? r.pathLine).getD [.respond unknown])

/-- The answer to a request that was made `count` times before. -/
def reply (t : ApiTable) (r : ApiRequest) (count : Nat) : Reply :=
  let all := t.replies r
  (all[count]? <|> all.getLast?).getD (.respond unknown)

end ApiTable

end EtcdBackup.Simulation
