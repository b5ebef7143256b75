import FleetWatch.CommandLine.Arguments
import FleetWatch.Config.Discovery
import FleetWatch.Http.Server
import FleetWatch.Json.Writer

/-!
# Running a command

What the command line does, as far as it can be said without doing it: what is printed, what is
reported as a failure, or what is to be served.

## Main Definitions

* `Failure` — why a command fails
* `Effect` — what is to be done
* `Invocation.run` — the effect of an invocation
* `runArguments` — the effect of arguments
-/

namespace FleetWatch

open Text

/-- Why a command fails. -/
inductive Failure where
  /-- The configuration cannot be read. -/
  | unusable (error : ConfigError)
  /-- The configuration does not hold together. -/
  | invalid (error : ConfigError)
  /-- A question has no answer, since its task has died. -/
  | unanswered (notice : String)
  /-- The server cannot listen. -/
  | network (message : String)
deriving DecidableEq, Repr

/-- A failure in words. -/
def Failure.message : Failure → String
  | .unusable error => error.message
  | .invalid _ => "Invalid configuration"
  | .unanswered notice => notice
  | .network message => message

/-- The cause of a failure in words, if it has one. -/
def Failure.cause? : Failure → Option String
  | .unusable error => error.cause?
  | .invalid error => some error.message
  | _ => none

/-- A text with each of its lines indented. -/
def indented (text : String) : List Char :=
  (((segments '\n' text.toList).map fun line => ' ' :: ' ' :: ' ' :: ' ' :: line).intersperse
    ['\n']).flatten

/-- The report of a failure, with its cause on lines of its own. -/
def Failure.report (failure : Failure) : String :=
  "Error: " ++ failure.message ++ "\n" ++
    match failure.cause? with
    | some cause => "\nCaused by:\n" ++ String.ofList (indented cause) ++ "\n"
    | none => ""

/-- What is to be done. -/
inductive Effect where
  | print (text : String)
  | fail (failure : Failure)
  | listen (host : String) (port : Nat) (server : Server)
  | help
  | misuse

/-- Prints a value over several lines. -/
def Effect.ofJson (value : Json) : Effect :=
  .print (value.pretty ++ "\n")

/-- The effect of a command on a dashboard. -/
def Command.run (moment : Moment) (settings : ServerSettings) (dashboard : Dashboard) :
    Command → Effect
  | .serve host port token =>
    .listen (host.getD settings.host) (port.getD settings.port) (.guarded dashboard token)
  | .activity limit =>
    .ofJson (dashboard.feed moment (limit.getD dashboard.feedOptions.cap)).toJson
  | .agents => .ofJson (.array ((dashboard.statuses moment).map AgentStatus.toJson))
  | .snapshot => .ofJson (dashboard.snapshot moment).toJson
  | .memory =>
    match dashboard.memory moment with
    | .ok digest => .ofJson digest.toJson
    | .error fault => .fail (.unanswered (moment.surroundings.deathNotice fault.message))
  | .health => .ofJson (dashboard.health moment).toJson

/-- The configuration that an invocation is to use. -/
def Invocation.configuration (invocation : Invocation) (disk : Disk) (env : Environment)
    (directory : Option Path) : Except ConfigError Config :=
  match invocation.config with
  | some path => Config.loadFile disk (.ofString path)
  | none => Config.discover disk env directory

/-- The effect of an invocation in a working directory. -/
def Invocation.run (moment : Moment) (env : Environment) (directory : Option Path)
    (invocation : Invocation) : Effect :=
  match invocation.configuration moment.disk env directory with
  | .error e => .fail (.unusable e)
  | .ok config =>
    match Dashboard.ofConfig config env with
    | .error e => .fail (.invalid e)
    | .ok dashboard => invocation.command.run moment config.server dashboard

/-- The effect of arguments in a working directory. -/
def runArguments (moment : Moment) (env : Environment) (directory : Option Path)
    (arguments : List String) : Effect :=
  match Invocation.read env arguments with
  | .help => .help
  | .misuse => .misuse
  | .meaning invocation => invocation.run moment env directory

end FleetWatch
