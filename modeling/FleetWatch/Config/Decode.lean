import FleetWatch.Config.Basic
import FleetWatch.Toml.Reader

/-!
# Configurations from TOML

A section is a table, or an array of the values of its settings in their order. Settings that are
not known are passed over, and those that are missing have their defaults. A date stands for a
section in which nothing is set.

## Main Definitions

* `Config.ofToml?` — the configuration that a document describes
* `Config.read?` — the configuration of a text
-/

namespace FleetWatch

namespace Toml

/-- A text. -/
def asText? : Toml → Option String
  | .text value => some value
  | _ => none

/-- A whole number that is not negative and at most `max`. -/
def asNat? (max : Nat) : Toml → Option Nat
  | .integer value => if 0 ≤ value ∧ value ≤ max then some value.toNat else none
  | _ => none

/-- A whole number. -/
def asInt? : Toml → Option Int
  | .integer value => some value
  | _ => none

/-- A list of values that are all of one kind. -/
def asList? {α : Type} (decode : Toml → Option α) : Toml → Option (List α)
  | .array items => items.mapM decode
  | _ => none

/-- The settings of a section, each by its place in an array or by its name. -/
def settings? : Toml → Option (Nat → String → Option Toml)
  | .table entries => some fun _ name => lookup name entries
  | .array items => some fun place _ => items[place]?
  | .dateTime => some fun _ _ => none
  | _ => none

/-- A setting that has a default. -/
def setting? {α : Type} (decode : Toml → Option α) (default : α) : Option Toml → Option α
  | none => some default
  | some value => decode value

/-- An entry of a table that may be missing. -/
def optional? {α : Type} (decode : Toml → Option α) : Option Toml → Option (Option α)
  | none => some none
  | some value => (decode value).map some

end Toml

open Toml

/-- The largest natural number of a setting. -/
def largestSetting : Nat := 18446744073709551615

/-- The section of the server. -/
def ServerSettings.ofToml? (value : Toml) : Option ServerSettings := do
  let get ← settings? value
  let base : ServerSettings := {}
  return {
    host := ← setting? asText? base.host (get 0 "host")
    port := ← setting? (asNat? 65535) base.port (get 1 "port") }

/-- The section of the paths. -/
def PathSettings.ofToml? (value : Toml) : Option PathSettings := do
  let get ← settings? value
  let base : PathSettings := {}
  return {
    agentsBase := ← setting? asText? base.agentsBase (get 0 "agents_base")
    workspaceMain := ← setting? asText? base.workspaceMain (get 1 "workspace_main")
    workspaceBusiness := ← setting? asText? base.workspaceBusiness (get 2 "workspace_business") }

/-- The section of the feed. -/
def ActivitySettings.ofToml? (value : Toml) : Option ActivitySettings := do
  let get ← settings? value
  let base : ActivitySettings := {}
  return {
    windowHours := ← setting? (asNat? largestSetting) base.windowHours (get 0 "window_hours")
    cap := ← setting? (asNat? largestSetting) base.cap (get 1 "cap")
    maxChars := ← setting? (asNat? largestSetting) base.maxChars (get 2 "max_chars") }

/-- The section of the status. -/
def StatusSettings.ofToml? (value : Toml) : Option StatusSettings := do
  let get ← settings? value
  let base : StatusSettings := {}
  return {
    tailLines := ← setting? (asNat? largestSetting) base.tailLines (get 0 "tail_lines")
    maxChars := ← setting? (asNat? largestSetting) base.maxChars (get 1 "max_chars")
    activeSecs := ← setting? asInt? base.activeSecs (get 2 "active_secs")
    idleSecs := ← setting? asInt? base.idleSecs (get 3 "idle_secs") }

/-- A service. Both its settings must be there. -/
def Service.ofToml? (value : Toml) : Option Service := do
  let get ← settings? value
  return { name := ← asText? (← get 0 "name"), address := ← asText? (← get 1 "address") }

/-- The section of the health. -/
def HealthSettings.ofToml? (value : Toml) : Option HealthSettings := do
  let get ← settings? value
  let base : HealthSettings := {}
  return {
    diskMount := ← setting? asText? base.diskMount (get 0 "disk_mount")
    timeoutMillis := ← setting? (asNat? largestSetting) base.timeoutMillis (get 1 "timeout_ms")
    services := ← setting? (asList? Service.ofToml?) base.services (get 2 "services") }

/-- An agent. In a table only the identifier must be there; an array must have all settings. -/
def AgentSettings.ofToml? : Toml → Option AgentSettings
  | .table entries => do
    return {
      id := ← asText? (← lookup "id" entries)
      name := ← optional? asText? (lookup "name" entries)
      color := ← optional? asText? (lookup "color" entries)
      sessionDir := ← optional? asText? (lookup "session_dir" entries) }
  | .array (id :: name :: color :: sessionDir :: _) => do
    return {
      id := ← asText? id
      name := some (← asText? name)
      color := some (← asText? color)
      sessionDir := some (← asText? sessionDir) }
  | _ => none

/-- The configuration that a document describes. -/
def Config.ofToml? (document : Toml) : Option Config := do
  let get ← settings? document
  let base : Config := {}
  return {
    server := ← setting? ServerSettings.ofToml? base.server (get 0 "server")
    paths := ← setting? PathSettings.ofToml? base.paths (get 1 "paths")
    activity := ← setting? ActivitySettings.ofToml? base.activity (get 2 "activity")
    status := ← setting? StatusSettings.ofToml? base.status (get 3 "status")
    health := ← setting? HealthSettings.ofToml? base.health (get 4 "health")
    agents := ← setting? (asList? AgentSettings.ofToml?) base.agents (get 5 "agents") }

/-- The configuration of a text, `none` if the text is no document or a setting does not fit. -/
def Config.read? (text : String) : Option Config := do
  ofToml? (← Toml.read? text)

end FleetWatch
