import FleetWatch.Config.Decode
import FleetWatch.Config.Environment
import FleetWatch.Config.Error

/-!
# Finding the configuration

The configuration is looked for in the working directory and the directories around it, nearest
first, and then among the user's configuration files. The first file that exists is used, also if
it turns out to be of no use.

## Main Definitions

* `Path.ancestors` — a directory and the directories around it
* `Config.candidates` — where the configuration may be, in order
* `Config.loadFile` — the configuration of a file
* `Config.discover` — the configuration that is found
-/

namespace FleetWatch

/-- The directory whose names are given last first, and the directories around it, nearest
first. -/
def Path.outward : List (List UInt8) → List Path
  | [] => [Path.ofNames []]
  | name :: outer => Path.ofNames (name :: outer).reverse :: outward outer

/-- A directory given by its absolute path and the directories around it, nearest first. -/
def Path.ancestors (path : Path) : List Path :=
  Path.outward path.names.reverse

namespace Config

/-- The name of a configuration file. -/
def fileName : Path :=
  .ofString ".dashboard.toml"

/-- Where the user's own configuration is. -/
def globalFile? (env : Environment) : Option Path :=
  env.configDir?.map fun directory =>
    (directory.join (.ofString "fleet-dashboard")).join fileName

/-- Where the configuration may be, in the order in which it is looked for. -/
def candidates (env : Environment) (directory : Path) : List Path :=
  directory.ancestors.map (·.join fileName) ++ (globalFile? env).toList

/-- The configuration of a file. -/
def loadFile (disk : Disk) (path : Path) : Except ConfigError Config :=
  match disk.readText path with
  | .error cause => .error (.unreadable path cause)
  | .ok text =>
    match read? text with
    | none => .error (.malformed path)
    | some config => .ok config

/-- The configuration that is found from a working directory. If the working directory is not
known, or no file is found, nothing is set. -/
def discover (disk : Disk) (env : Environment) (directory : Option Path) :
    Except ConfigError Config :=
  match directory with
  | none => .ok {}
  | some directory =>
    match (candidates env directory).find? disk.has with
    | none => .ok {}
    | some path => loadFile disk path

end Config

end FleetWatch
