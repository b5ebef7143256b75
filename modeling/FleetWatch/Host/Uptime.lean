import FleetWatch.Text.DecimalDigit

/-!
# Uptimes in words

How long a host has been running, in days, hours and minutes. Units of which there are none are
left out, except that minutes stand alone where there would be nothing.

## Main Definitions

* `uptimeText` — a number of seconds in words
-/

namespace FleetWatch

open Text

/-- A number of units, in the plural unless there is one. -/
def quantity (n : Nat) (unit : String) : String :=
  String.ofList (decimal n) ++ " " ++ unit ++ (if n = 1 then "" else "s")

/-- The units of which there are some, largest first. -/
def uptimeParts (seconds : Nat) : List String :=
  let days := seconds / 86400
  let hours := seconds % 86400 / 3600
  let minutes := seconds % 3600 / 60
  let large :=
    (if 0 < days then [quantity days "day"] else []) ++
      (if 0 < hours then [quantity hours "hour"] else [])
  large ++ (if 0 < minutes || large.isEmpty then [quantity minutes "minute"] else [])

/-- A number of seconds in words. -/
def uptimeText (seconds : Nat) : String :=
  ", ".intercalate (uptimeParts seconds)

end FleetWatch
