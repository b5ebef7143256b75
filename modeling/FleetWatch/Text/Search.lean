/-!
# Searching and splitting

Finding a part of a sequence, and cutting a sequence at a separator.

## Main Definitions

* `contains` — whether a sequence occurs in another
* `segments` — the parts of a sequence between separators
-/

namespace FleetWatch.Text

/-- Whether a part occurs in a text without gaps. -/
def contains (part : List Char) : List Char → Bool
  | [] => part.isEmpty
  | c :: cs => part.isPrefixOf (c :: cs) || contains part cs

/-- The parts of a sequence between separators, in order. There is one more part than there are
separators, so a separator at the end leaves an empty last part. -/
def segments {α : Type} [BEq α] (separator : α) (sequence : List α) : List (List α) :=
  let (first, rest) := sequence.foldr
    (fun a (first, rest) => if a == separator then ([], first :: rest) else (a :: first, rest))
    ([], [])
  first :: rest

end FleetWatch.Text
