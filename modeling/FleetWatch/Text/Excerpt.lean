import FleetWatch.Text.Blank

/-!
# Excerpts

Cutting a text to a number of characters. An ellipsis stands where text is missing.

## Main Definitions

* `opening` — the start of a text, in at most a given number of characters
* `ending` — the last characters of a text
-/

namespace FleetWatch.Text

/-- The character that stands for missing text. -/
def ellipsis : Char := '…'

/-- A text of at most `max` characters as it is; of a longer one the first `max - 1`, without
white space at their end, and an ellipsis. Nothing is left if `max` is zero. -/
def opening (max : Nat) (text : List Char) : List Char :=
  if text.length ≤ max then text
  else if max = 0 then []
  else trimEnd (text.take (max - 1)) ++ [ellipsis]

/-- A text of at most `max` characters as it is; of a longer one an ellipsis and the last
`max`. -/
def ending (max : Nat) (text : List Char) : List Char :=
  if text.length ≤ max then text
  else ellipsis :: text.drop (text.length - max)

end FleetWatch.Text
