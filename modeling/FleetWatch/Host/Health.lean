import FleetWatch.Disk.Path
import FleetWatch.Host.Uptime
import FleetWatch.Session.View

/-!
# Health of the host

The state of the host and of the services beside it, as far as it can be observed. What is
observed is data here; how it is shown, and in which order, is said below.

## Main Definitions

* `percent` — a share in percent
* `Service`, `ServiceStatus` — a service to look for, and whether it answers
* `HostReading` — what is observed of the host
* `Health` — the reading and the services
-/

namespace FleetWatch

/-- A share in percent, each step rounded to floating-point precision. Of nothing it is zero. -/
def percent (used total : Nat) : Binary64 :=
  let share : Option Binary64 := do
    let quotient ← (← Binary64.ofInt? used).div? (← Binary64.ofInt? total)
    quotient.mul? (← Binary64.ofInt? 100)
  share.getD (Binary64.zero false)

/-- A service to look for at a network address. -/
structure Service where
  name : String
  address : String
deriving DecidableEq, Repr

/-- Whether a service answers. -/
structure ServiceStatus where
  service : Service
  reachable : Bool
deriving DecidableEq, Repr

/-- How much of a store is in use, in bytes. -/
structure Usage where
  total : Nat
  used : Nat
  available : Nat
deriving DecidableEq, Repr

/-- What is observed of the host: the disk with its mount point, the memory, and the seconds since
it was started. -/
structure HostReading where
  disk : Option (String × Usage)
  memory : Option Usage
  uptime : Nat
deriving DecidableEq, Repr

/-- What can be observed outside the file system: the host as seen from a mount point, whether an
address answers within a number of milliseconds, and what is reported of a task that has died with
a message. A report may name the task by a number of its own. -/
structure Surroundings where
  reading : Path → HostReading
  answers : (address : String) → (timeout : Nat) → Bool
  deathNotice : (message : String) → String := fun message =>
    "task panicked with message \"" ++ message ++ "\""

/-- The reading of the host and the state of the services. -/
structure Health where
  reading : HostReading
  services : List ServiceStatus
deriving DecidableEq, Repr

/-- The health that is observed, with the services in the order in which they are given. -/
def Health.observe (surroundings : Surroundings) (mount : Path) (services : List Service)
    (timeout : Nat) : Health where
  reading := surroundings.reading mount
  services := services.map fun service =>
    ⟨service, surroundings.answers service.address timeout⟩

/-! ### Views -/

/-- The members that show a usage. -/
def Usage.fields (usage : Usage) : List (String × Json) :=
  [("totalBytes", .ofNat usage.total), ("usedBytes", .ofNat usage.used),
    ("availableBytes", .ofNat usage.available),
    ("usagePercent", .number (.float (percent usage.used usage.total)))]

/-- A service and whether it answers. -/
def ServiceStatus.toJson (status : ServiceStatus) : Json :=
  .object
    [("name", .text status.service.name), ("address", .text status.service.address),
      ("reachable", .bool status.reachable)]

/-- The members of a health report. -/
def Health.fields (health : Health) : List (String × Json) :=
  [("disk",
      match health.reading.disk with
      | some (mount, usage) => .object (("mountPoint", .text mount) :: usage.fields)
      | none => .null),
    ("memory",
      match health.reading.memory with
      | some usage => .object usage.fields
      | none => .null),
    ("uptime",
      .object
        [("seconds", .ofNat health.reading.uptime),
          ("human", .text (uptimeText health.reading.uptime))]),
    ("services", .array (health.services.map ServiceStatus.toJson))]

/-- A health report. -/
def Health.toJson (health : Health) : Json :=
  .object health.fields

end FleetWatch
