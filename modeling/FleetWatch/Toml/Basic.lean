/-!
# TOML values

A TOML document as a value. Numbers with a fraction or exponent and dates are told apart from
other values but not kept, since nothing reads them.

## Main Definitions

* `Toml` — a value
* `Toml.field?` — the entry of a table under a key
-/

namespace FleetWatch

/-- A TOML value. -/
inductive Toml where
  | text (value : String)
  | integer (value : Int)
  | float
  | bool (value : Bool)
  | dateTime
  | array (items : List Toml)
  | table (entries : List (String × Toml))
deriving Repr, Inhabited

namespace Toml

/-- The entry under a key. -/
def lookup (key : String) (entries : List (String × Toml)) : Option Toml :=
  (entries.find? (·.1 == key)).map (·.2)

/-- How many parts a dotted key may have, and how deep arrays and inline tables may be nested,
plus one. -/
def depthLimit : Nat := 80

end Toml

end FleetWatch
