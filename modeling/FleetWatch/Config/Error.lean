import FleetWatch.Disk.Basic
import FleetWatch.Text.DecimalDigit

/-!
# Faults of a configuration

Only the start can fail, and only by a configuration that cannot be used.

## Main Definitions

* `ConfigError` — why a configuration cannot be used
* `ConfigError.message`, `ConfigError.cause?` — a fault in words
-/

namespace FleetWatch

/-- Why a configuration cannot be used. -/
inductive ConfigError where
  | unreadable (path : Path) (cause : ReadError)
  | malformed (path : Path)
  | emptyAgentId
  | duplicateAgent (id : String)
  | invalidDuration (key : String) (seconds : Int)
deriving DecidableEq, Repr

/-- A whole number in base ten. -/
def signedDecimal (n : Int) : String :=
  String.ofList ((if n < 0 then ['-'] else []) ++ Text.decimal n.natAbs)

/-- A fault in words. -/
def ConfigError.message : ConfigError → String
  | .unreadable path cause =>
    "Failed to read config file " ++ path.display ++ ": " ++ cause.message
  | .malformed path => "Failed to parse config file " ++ path.display
  | .emptyAgentId => "Agent id must not be empty"
  | .duplicateAgent id => "Agent '" ++ id ++ "' is configured more than once"
  | .invalidDuration key seconds =>
    key ++ " = " ++ signedDecimal seconds ++ " is out of range for a duration"

/-- The cause of a fault in words, if it has one. -/
def ConfigError.cause? : ConfigError → Option String
  | .unreadable _ cause => some cause.message
  | _ => none

end FleetWatch
