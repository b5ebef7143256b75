import FleetWatch.Number.Shortest

/-!
# JSON values

A JSON document as a value. An object keeps its members in the order in which they are written,
repeated names included; looking up a name finds the last member that has it.

## Main Definitions

* `Json.Number` — a whole number, kept exactly, or a binary floating-point number
* `Json` — a value
* `Json.field?` — the member of an object with a given name
* `Json.Number.text` — a number as it is written
-/

namespace FleetWatch

/-- A number of a document: a whole number, or any other number at floating-point precision. -/
inductive Json.Number where
  | integer (value : Int)
  | float (value : Binary64)
deriving DecidableEq, Repr

/-- A JSON value. -/
inductive Json where
  | null
  | bool (value : Bool)
  | number (value : Json.Number)
  | text (value : String)
  | array (items : List Json)
  | object (fields : List (String × Json))
deriving Repr, Inhabited

namespace Json

/-- The number at floating-point precision; `none` if a whole number lies beyond the format. -/
def Number.toBinary64? : Number → Option Binary64
  | .integer value => Binary64.ofInt? value
  | .float value => some value

/-- A number as it is written: a whole number in base ten, any other with the fewest digits that
read back. -/
def Number.text : Number → String
  | .integer value =>
    let magnitude := Text.decimal value.natAbs
    String.ofList (if value < 0 then '-' :: magnitude else magnitude)
  | .float value => String.ofList (Shortest.text value)

/-- The value of the last member of that name. -/
def lookup (name : String) (fields : List (String × Json)) : Option Json :=
  (fields.reverse.find? (·.1 == name)).map (·.2)

/-- The member of an object with a given name; values of other kinds have no members. -/
def field? (name : String) : Json → Option Json
  | .object fields => lookup name fields
  | _ => none

/-- The text of a text value. -/
def text? : Json → Option String
  | .text value => some value
  | _ => none

end Json

end FleetWatch
