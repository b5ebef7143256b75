import FleetWatch.Config.Environment
import FleetWatch.Poll.Dashboard
import Std.Async.DNS
import Std.Async.TCP
import Std.Async.Timer
import Std.Internal.UV.System
import Std.Time

/-!
# Looking at the host

The clock, the variables of the process, the state of the host, and the services beside it.

## Main Definitions

* `readClock` — the time in UTC and the local date
* `readEnvironment` — the variables of the process
* `readSurroundings` — the state of the host and of services
-/

namespace FleetWatch

open Std.Async

/-! ### Clock and variables -/

/-- The time in UTC and the local date. -/
def readClock : IO (Instant × Date) := do
  let duration := (← Std.Time.Timestamp.now).toDurationSinceUnixEpoch
  let nanos := duration.toNanoseconds.val
  let day ← Std.Time.PlainDate.now
  match Instant.ofParts? (nanos / 1000000000) (nanos % 1000000000).toNat with
  | none => throw (IO.userError "The clock is outside the calendar")
  | some now =>
    let date := Date.ofParts? day.year day.month.val.toNat day.day.val.toNat
    return (now, date.getD now.date)

/-- The variables of the process. -/
def readEnvironment : IO Environment := do
  let pairs := (← Std.Internal.UV.System.osEnviron).toList
  let account ←
    try pure (← Std.Internal.UV.System.osGetPasswd).homedir
    catch _ => pure none
  return ⟨pairs, account⟩

/-! ### Host -/

/-- The memory of the host. A host that does not tell has none. -/
def readMemory : IO (Option Usage) := do
  let total := (← Std.Internal.UV.System.totalMemory).toNat
  let available := (← Std.Internal.UV.System.availableMemory).toNat
  if total = 0 then return none
  return some ⟨total, total - available, available⟩

/-- The state of the host. Disks cannot be looked at. -/
def readHost : IO HostReading := do
  let memory ← try readMemory catch _ => pure none
  let uptime ←
    try pure (← Std.Internal.UV.System.uptime).toNat
    catch _ => pure 0
  return ⟨none, memory, uptime⟩

/-! ### Services -/

/-- Host and port of an address. -/
def splitAddress? (address : String) : Option (String × UInt16) := do
  let chars := address.toList.reverse
  let port := (chars.takeWhile (· != ':')).reverse
  let host := (chars.drop (port.length + 1)).reverse
  if port.length < chars.length && !port.isEmpty && port.all Char.isDigit &&
      Text.asciiValue port < 65536 then
    some (String.ofList host, (Text.asciiValue port).toUInt16)
  else none

/-- The socket address of an Internet address and a port. -/
def socketAddress (address : Std.Net.IPAddr) (port : UInt16) : Std.Net.SocketAddress :=
  match address with
  | .v4 address => .v4 ⟨address, port⟩
  | .v6 address => .v6 ⟨address, port⟩

/-- The socket addresses that a name and a port stand for. -/
def resolve (host : String) (port : UInt16) : Async (List Std.Net.SocketAddress) := do
  let found ← DNS.getAddrInfo host (toString port)
  return found.toList.map (socketAddress · port)

/-- Whether one of several socket addresses takes a connection. -/
def connectAny : List Std.Net.SocketAddress → Async Bool
  | [] => return false
  | address :: rest => do
    try
      let client ← TCP.Socket.Client.mk
      client.connect address
      return true
    catch _ => connectAny rest

/-- Whether an address takes a connection within some milliseconds. -/
def probe (address : String) (timeout : Nat) : IO Bool := do
  match splitAddress? address with
  | none => return false
  | some (host, port) =>
    let attempt : Async Bool := do
      try connectAny (← resolve host port) catch _ => return false
    let limit : Async Bool := do
      Std.Async.sleep ⟨timeout⟩
      return false
    try (Async.race attempt limit).block catch _ => return false

/-- The state of the host and of services, as they are found within some milliseconds. -/
def readSurroundings (services : List Service) (timeout : Nat) : IO Surroundings := do
  let reading ← readHost
  let tasks ← services.mapM fun service => do
    return (service.address, ← IO.asTask (probe service.address timeout))
  let found := tasks.map fun (address, task) =>
    (address, match task.get with | .ok reachable => reachable | .error _ => false)
  return {
    reading := fun _ => reading
    answers := fun address _ => (found.lookup address).getD false }

end FleetWatch
