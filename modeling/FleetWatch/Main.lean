import FleetWatch.CommandLine.Run
import FleetWatch.Outer.Listener

/-!
# The program

Looks at the configuration and at what it names, and does what the command line asks for.
-/

namespace FleetWatch

/-- How the program is called. -/
def usage : String :=
  "Usage: fleet-dashboard [--config PATH] [--verbose] COMMAND\n\n" ++
    "Commands:\n" ++
    "  serve     [--host HOST] [--port PORT] [--api-token TOKEN]\n" ++
    "  activity  [--limit N]\n" ++
    "  agents\n  snapshot\n  memory\n  health\n"

/-- The working directory, if it is known. -/
def workingDirectory : IO (Option Path) := do
  try return some (.ofString (← IO.currentDir).toString)
  catch _ => return none

/-- The files that the choice of a configuration depends on. -/
def configPlaces (env : Environment) (directory : Option Path) : Parsed Invocation → List Path
  | .meaning invocation =>
    match invocation.config, directory with
    | some path, _ => [.ofString path]
    | none, some directory => Config.candidates env directory
    | none, none => []
  | _ => []

/-- Looks at all that an invocation depends on. -/
def lookFor (env : Environment) (directory : Option Path) (parsed : Parsed Invocation) :
    IO Moment := do
  let places ← Sightings.ofPaths (configPlaces env directory parsed)
  let (now, today) ← readClock
  let bare : Moment := ⟨places.disk, now, today, ← readSurroundings [] 0⟩
  match parsed with
  | .meaning invocation =>
    match invocation.configuration places.disk env directory with
    | .error _ => return bare
    | .ok config =>
      match Dashboard.ofConfig config env with
      | .error _ => return bare
      | .ok dashboard =>
        let seen ← Sightings.ofDashboard dashboard today
        let services := if invocation.command = .health then dashboard.services else []
        return ⟨(places.append seen).disk, now, today,
          ← readSurroundings services dashboard.probeTimeout⟩
  | _ => return bare

/-- Reports a failure. -/
def report (failure : Failure) : IO UInt32 := do
  IO.eprint failure.report
  return 1

/-- Does what is to be done. -/
def Effect.perform : Effect → IO UInt32
  | .print text => do
    IO.print text
    return 0
  | .fail failure => report failure
  | .listen host port server => do
    try
      serveRequests host port server
      return 0
    catch e => report (.network (networkMessage e))
  | .help => do
    IO.print usage
    return 0
  | .misuse => do
    IO.eprint usage
    return 2

end FleetWatch

open FleetWatch in
/-- Runs the program. -/
def main (arguments : List String) : IO UInt32 := do
  let env ← readEnvironment
  let directory ← workingDirectory
  let moment ← lookFor env directory (Invocation.read env arguments)
  (runArguments moment env directory arguments).perform
