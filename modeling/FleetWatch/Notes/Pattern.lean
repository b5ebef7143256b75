import FleetWatch.Text.Blank

/-!
# Patterns in notes

Finding the places of a document where a pattern applies. The document is read from its start;
where the pattern applies, its match is taken out and the search goes on behind it, so matches
never overlap.

## Main Definitions

* `Hit` — a match: its length, and what is of interest in it
* `Pattern` — what to look for
* `Pattern.hits` — the matches in a document, in order
-/

namespace FleetWatch.Notes

/-- A match of a pattern: how many characters it takes, at least one, and what is of interest in
it. -/
structure Hit (α : Type) where
  length : Nat
  value : α
  length_pos : 0 < length

/-- What to look for: the match that starts here, if there is one, given whether this is the start
of a line and the rest of the document. -/
abbrev Pattern (α : Type) := Bool → List Char → Option (Hit α)

/-- The matches in the rest of a document, after some characters that are to be skipped. -/
def Pattern.hitsFrom {α : Type} (pattern : Pattern α) :
    (skip : Nat) → (lineStart : Bool) → List Char → List α
  | _, _, [] => []
  | skip + 1, _, c :: cs => hitsFrom pattern skip (c == '\n') cs
  | 0, lineStart, c :: cs =>
    match pattern lineStart (c :: cs) with
    | none => hitsFrom pattern 0 (c == '\n') cs
    | some hit => hit.value :: hitsFrom pattern (hit.length - 1) (c == '\n') cs

/-- The matches in a document, in order. -/
def Pattern.hits {α : Type} (pattern : Pattern α) (document : List Char) : List α :=
  pattern.hitsFrom 0 true document

/-- The pattern of a mark at the start of a line with white space after it. All the white space
belongs to the match, also across the ends of lines. -/
def marked (marks : List (List Char)) : Pattern Unit := fun lineStart cs =>
  if lineStart then
    marks.findSome? fun mark =>
      let blank := (cs.drop mark.length).takeWhile Text.isBlank
      if h : mark.isPrefixOf cs && 0 < blank.length then
        some ⟨mark.length + blank.length, (), by simp at h; omega⟩
      else none
  else none

end FleetWatch.Notes
