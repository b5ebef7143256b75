import FleetWatch.Http.Server
import FleetWatch.Json.Writer
import FleetWatch.Outer.Files
import FleetWatch.Outer.Host
import Std.Http

/-!
# Listening

Taking requests from the network and sending back the answers of the server.

## Main Definitions

* `look` — the moment at which a question is asked
* `serveRequests` — answers requests until the process ends
-/

namespace FleetWatch

open Std.Async

/-- Looks at all that a dashboard's answers depend on. Services are looked for on demand. -/
def look (dashboard : Dashboard) (services : Bool) : IO Moment := do
  let (now, today) ← readClock
  let seen ← Sightings.ofDashboard dashboard today
  let surroundings ←
    readSurroundings (if services then dashboard.services else []) dashboard.probeTimeout
  return ⟨seen.disk, now, today, surroundings⟩

/-- A request as it comes from the network. -/
def requestOf {α : Type} (request : Std.Http.Request α) : Request where
  method := toString request.line.method
  target := toString request.line.uri
  headers := request.line.headers.toArray.toList.map fun (name, value) =>
    (name.value, Text.Utf8.encode value.value.toList)

/-- The status of a number. -/
def statusOf (n : Nat) : Std.Http.Status :=
  if n = 200 then .ok
  else if n = 401 then .unauthorized
  else if n = 404 then .notFound
  else if n = 405 then .methodNotAllowed
  else .internalServerError

/-- A response as it goes to the network. -/
def sendable (response : Response) : Async (Std.Http.Response Std.Http.Body.Any) := do
  let builder := response.headers.foldl
    (fun builder (name, value) => (builder.header? name value).getD builder)
    (Std.Http.Response.withStatus (statusOf response.status))
  match response.body with
  | some body => builder.fromBytes body.compact.toUTF8
  | none => builder.empty

/-- Answers one request. -/
def handle (server : Server) (request : Request) : IO Response := do
  let health := Route.ofPath? request.path = some .health && server.authorized request
  return server.respond (← look server.dashboard health) request

/-- Why the network cannot be used, in words. -/
def networkMessage (error : IO.Error) : String :=
  let code : UInt32 :=
    match error with
    | .otherError code _ | .unsupportedOperation code _ | .resourceBusy code _
    | .permissionDenied _ code _ | .invalidArgument _ code _ | .noSuchThing _ code _
    | .alreadyExists _ code _ | .unsatisfiedConstraints code _ => code
    | _ => 0
  if code = 99 || code = 0 - 99 then "Cannot assign requested address (os error 99)"
  else if code = 98 || code = 0 - 98 then "Address already in use (os error 98)"
  else if code = 13 || code = 0 - 13 then "Permission denied (os error 13)"
  else toString error

/-- Answers requests at an address until the process ends. -/
def serveRequests (host : String) (port : Nat) (server : Server) : IO Unit := do
  let run : Async Unit := do
    match ← resolve host port.toUInt16 with
    | [] => throw (IO.userError "no address")
    | address :: _ =>
      let running ← Std.Http.Server.serve address (Std.Http.Server.Handler.ofFn fun request => do
        sendable (← handle server (requestOf request)))
      running.waitShutdown
  run.block

end FleetWatch
