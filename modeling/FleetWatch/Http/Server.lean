import FleetWatch.Http.Message
import FleetWatch.Poll.Dashboard

/-!
# The server

Answers to requests. Five paths have an answer each. They may be guarded by a token, which a
request must carry in its authorization header. Scripts of any site may ask, so every answer says
so, and a request for the options of any path is answered before anything else is looked at.

## Main Definitions

* `Route` — the five paths
* `Server` — a dashboard and the token that guards it
* `Server.authorized` — whether a request carries the token
* `Server.respond` — the answer to a request
-/

namespace FleetWatch

/-- A path that has an answer. -/
inductive Route where
  | activity
  | agents
  | snapshot
  | memory
  | health
deriving DecidableEq, Repr

/-- The route of a path, which must be the same to the letter. -/
def Route.ofPath? (path : String) : Option Route :=
  if path = "/api/activity" then some .activity
  else if path = "/api/agents" then some .agents
  else if path = "/api/snapshot" then some .snapshot
  else if path = "/api/memory" then some .memory
  else if path = "/api/health" then some .health
  else none

/-- A dashboard that is served, and the token that guards it, if there is one. -/
structure Server where
  dashboard : Dashboard
  token : Option String
deriving DecidableEq, Repr

namespace Server

/-- The version that a health report names. -/
def version : String := "0.1.0"

/-- A dashboard under a token. An empty token does not guard. -/
def guarded (dashboard : Dashboard) (token : Option String) : Server :=
  ⟨dashboard, token.filter (· ≠ "")⟩

/-! ### Authorization -/

/-- What stands before the token. -/
def scheme : List UInt8 :=
  Text.Utf8.encode "Bearer ".toList

/-- A byte that may stand in the value of an authorization header: visible ASCII, or a tab. -/
def isVisible (b : UInt8) : Bool :=
  b == 0x09 || (0x20 ≤ b && b < 0x7F)

/-- Whether a value of the authorization header carries a token. -/
def carries (token : String) (value : List UInt8) : Bool :=
  value.all isVisible && value == scheme ++ Text.Utf8.encode token.toList

/-- Whether a request carries the token. Only the first authorization header counts. -/
def authorized (server : Server) (request : Request) : Bool :=
  match server.token with
  | none => true
  | some token =>
    match request.header? "authorization" with
    | none => false
    | some value => carries token value

/-! ### Answers -/

/-- The header that lets scripts of any site read an answer. -/
def openOrigin : String × String :=
  ("access-control-allow-origin", "*")

/-- The header that names the methods of a route, where a request has another. -/
def allowHeader (method : String) : List (String × String) :=
  if method = "GET" ∨ method = "HEAD" then [] else [("allow", "GET,HEAD")]

/-- The members of an answer with the time at which it was given. -/
def stamped (moment : Moment) (fields : List (String × Json)) : Json :=
  .object (fields ++ [("updatedAt", .text moment.now.iso)])

/-- What is said of a question that has no answer: what has failed, and the report of the task that
has died of it. -/
def complaint (moment : Moment) (context : String) (fault : PollFault) : String :=
  context ++ ": " ++ moment.surroundings.deathNotice fault.message

/-- The members that answer a question, or what is said if there is no answer. -/
def answer (server : Server) (moment : Moment) : Route → Except String (List (String × Json))
  | .activity =>
    .ok (server.dashboard.feed moment server.dashboard.feedOptions.cap).fields
  | .agents =>
    .ok [("agents", .array ((server.dashboard.statuses moment).map AgentStatus.toJson))]
  | .snapshot => .ok (server.dashboard.snapshot moment).fields
  | .memory =>
    ((server.dashboard.memory moment).map MemoryDigest.fields).mapError
      (complaint moment "Failed to read memory")
  | .health =>
    .ok
      ([("status", .text "ok"), ("agents", .ofNat server.dashboard.roster.length),
          ("version", .text version)] ++
        (server.dashboard.health moment).fields)

/-- The headers of an answer with a body. -/
def bodyHeaders : List (String × String) :=
  [("content-type", "application/json"), openOrigin]

/-- The answer that says what has failed. -/
def failure (text : String) : Response :=
  ⟨500, bodyHeaders, some (.object [("error", .text text)])⟩

/-- The answer of a route to a request that may see it. -/
def serve (server : Server) (moment : Moment) (route : Route) : Response :=
  match server.answer moment route with
  | .ok fields => ⟨200, bodyHeaders, some (stamped moment fields)⟩
  | .error text => failure text

/-- The answer to a request for the options of a path. -/
def options (request : Request) : Response :=
  let allow := if (Route.ofPath? request.path).isSome then allowHeader request.method else []
  ⟨200,
    allow ++
      [openOrigin, ("access-control-allow-methods", "*"), ("access-control-allow-headers", "*")],
    none⟩

/-- The answer to a request at a moment. -/
def respond (server : Server) (moment : Moment) (request : Request) : Response :=
  if request.method = "OPTIONS" then options request
  else
    match Route.ofPath? request.path with
    | none => ⟨404, [openOrigin], none⟩
    | some route =>
      if !server.authorized request then ⟨401, allowHeader request.method ++ [openOrigin], none⟩
      else if request.method = "GET" then server.serve moment route
      else if request.method = "HEAD" then { server.serve moment route with body := none }
      else ⟨405, allowHeader request.method ++ [openOrigin], none⟩

end Server

end FleetWatch
