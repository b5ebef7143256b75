import FleetWatch.Json.Basic

/-!
# Writing JSON

Two layouts of a value: on one line without any space, and over several lines with two spaces of
indent for each level. Members keep their order. Only quotation marks, backslashes and control
characters below the space are escaped.

## Main Definitions

* `Json.quoted` — a text between quotation marks
* `Json.compact` — the layout on one line
* `Json.pretty` — the layout over several lines
-/

namespace FleetWatch.Json

/-- A character inside a quoted text. -/
def escape (c : Char) : List Char :=
  if c == '"' then ['\\', '"']
  else if c == '\\' then ['\\', '\\']
  else if c == '\x08' then ['\\', 'b']
  else if c == '\t' then ['\\', 't']
  else if c == '\n' then ['\\', 'n']
  else if c == '\x0c' then ['\\', 'f']
  else if c == '\r' then ['\\', 'r']
  else if c.toNat < 0x20 then
    ['\\', 'u', '0', '0', Nat.digitChar (c.toNat / 16), Nat.digitChar (c.toNat % 16)]
  else [c]

/-- A text between quotation marks. -/
def quoted (text : String) : List Char :=
  '"' :: (text.toList.flatMap escape ++ ['"'])

/-- A value that holds no others. -/
def scalar : Json → List Char
  | .bool true => "true".toList
  | .bool false => "false".toList
  | .number value => value.text.toList
  | .text value => quoted value
  | _ => "null".toList

/-- A line break with the indent of a level. -/
def newline (level : Nat) : List Char :=
  '\n' :: List.replicate (2 * level) ' '

mutual

/-- A value on one line. -/
def compactChars : Json → List Char
  | .array items => '[' :: (compactItems true items ++ [']'])
  | .object fields => '\x7b' :: (compactFields true fields ++ ['\x7d'])
  | value => scalar value
termination_by structural value => value

/-- The items of an array, with a comma before each but the first. -/
def compactItems (first : Bool) : List Json → List Char
  | [] => []
  | item :: items =>
    (if first then [] else [',']) ++ compactChars item ++ compactItems false items
termination_by structural items => items

/-- The members of an object, with a comma before each but the first. -/
def compactFields (first : Bool) : List (String × Json) → List Char
  | [] => []
  | (key, value) :: fields =>
    (if first then [] else [',']) ++ quoted key ++ ':' :: compactChars value ++
      compactFields false fields
termination_by structural fields => fields

end

mutual

/-- A value over several lines, at a level of indent. -/
def prettyChars (level : Nat) : Json → List Char
  | .array [] => ['[', ']']
  | .array (item :: items) =>
    '[' :: newline (level + 1) ++ prettyChars (level + 1) item ++
      prettyItems (level + 1) items ++ newline level ++ [']']
  | .object [] => ['\x7b', '\x7d']
  | .object ((key, value) :: fields) =>
    '\x7b' :: newline (level + 1) ++ quoted key ++ ':' :: ' ' :: prettyChars (level + 1) value ++
      prettyFields (level + 1) fields ++ newline level ++ ['\x7d']
  | value => scalar value
termination_by structural value => value

/-- The further items of an array, each on a line of its own. -/
def prettyItems (level : Nat) : List Json → List Char
  | [] => []
  | item :: items =>
    ',' :: newline level ++ prettyChars level item ++ prettyItems level items
termination_by structural items => items

/-- The further members of an object, each on a line of its own. -/
def prettyFields (level : Nat) : List (String × Json) → List Char
  | [] => []
  | (key, value) :: fields =>
    ',' :: newline level ++ quoted key ++ ':' :: ' ' :: prettyChars level value ++
      prettyFields level fields
termination_by structural fields => fields

end

/-- A value on one line. -/
def compact (value : Json) : String :=
  String.ofList (compactChars value)

/-- A value over several lines. -/
def pretty (value : Json) : String :=
  String.ofList (prettyChars 0 value)

end FleetWatch.Json
