import FleetWatch.Notes.Pattern
import FleetWatch.Proofs.Text.Excerpt
import FleetWatch.Proofs.Text.Lines

/-!
# Patterns line by line

A pattern that applies at the starts of lines only is looked for line by line, although the search
goes through the document character by character: within a line there is nothing to be found, and
behind a match the search stands within the line on which the match has ended, or at the start of
the next one.

## Main Definitions

* `behind` — the text of the lines that follow a line
* `Pattern.LineBound` — a pattern that applies at the starts of lines only
-/

namespace FleetWatch.Notes

open Text

/-! ### Lines of a document -/

/-- The text of the lines that follow a line, a line break before each. -/
def behind (lines : List (List Char)) : List Char :=
  lines.flatMap ('\n' :: ·)

@[simp] theorem behind_nil : behind [] = [] := rfl

@[simp] theorem behind_cons (line : List Char) (lines : List (List Char)) :
    behind (line :: lines) = '\n' :: (line ++ behind lines) := rfl

/-- What follows a line is nothing or starts with a line break. -/
theorem eq_newline_of_head?_behind {lines : List (List Char)} :
    ∀ c ∈ (behind lines).head?, c = '\n' := by
  cases lines with
  | nil => simp
  | cons line lines => simp

/-- What stands before a line break is the rest of the line. -/
theorem takeWhile_append_behind {line : List Char} (h : '\n' ∉ line) (lines : List (List Char)) :
    (line ++ behind lines).takeWhile (· != '\n') = line := by
  refine takeWhile_append_of_ends ?_ ?_
  · intro c mem
    exact bne_iff_ne.mpr fun same => h (same ▸ mem)
  · intro c first
    rw [eq_newline_of_head?_behind c first]
    rfl

/-- What follows a text does not make of it what has no line break in it. -/
theorem isPrefixOf_append_behind {word : List Char} (oneLine : '\n' ∉ word) (text : List Char)
    (lines : List (List Char)) : word.isPrefixOf (text ++ behind lines) = word.isPrefixOf text := by
  rw [Bool.eq_iff_iff, List.isPrefixOf_iff_prefix, List.isPrefixOf_iff_prefix]
  refine ⟨fun begins => ?_, fun begins => begins.trans (List.prefix_append text _)⟩
  rcases List.prefix_or_prefix_of_prefix begins (List.prefix_append text _) with inText | beyond
  · exact inText
  · obtain ⟨more, rfl⟩ := beyond
    cases more with
    | nil => rw [List.append_nil]
    | cons c more =>
        obtain ⟨rest, split⟩ := (List.prefix_append_right_inj text).mp begins
        have isBreak := @eq_newline_of_head?_behind lines c (by rw [← split]; rfl)
        exact absurd (List.mem_append_right text (isBreak ▸ List.mem_cons_self)) oneLine

/-- A document is its first line and what follows it. -/
theorem eq_append_behind {document line : List Char} {lines : List (List Char)}
    (h : segments '\n' document = line :: lines) : document = line ++ behind lines := by
  induction document generalizing line lines with
  | nil =>
      cases h
      rfl
  | cons c rest ih =>
      cases parts : segments '\n' rest with
      | nil => exact absurd parts (segments_ne_nil '\n' rest)
      | cons first others =>
          have split := ih parts
          cases isBreak : c == '\n' with
          | true =>
              rw [eq_of_beq isBreak, segments_cons_separator, parts] at h
              cases h
              rw [eq_of_beq isBreak, split]
              rfl
          | false =>
              rw [segments_cons_of_ne '\n' isBreak, parts, List.modifyHead_cons] at h
              cases h
              rw [split, List.cons_append]

namespace Pattern

variable {α : Type} {pattern : Pattern α}

/-! ### Behind a match -/

/-- Where the pattern applies, its match is found. -/
theorem hitsFrom_cons_of_some {lineStart : Bool} {c : Char} {cs : List Char} {hit : Hit α}
    (applies : pattern lineStart (c :: cs) = some hit) :
    hitsFrom pattern 0 lineStart (c :: cs) =
      hit.value :: hitsFrom pattern (hit.length - 1) (c == '\n') cs := by
  rw [hitsFrom, applies]

/-- Where the pattern does not apply, the search goes on with the next character. -/
theorem hitsFrom_cons_of_none {lineStart : Bool} {c : Char} {cs : List Char}
    (fails : pattern lineStart (c :: cs) = none) :
    hitsFrom pattern 0 lineStart (c :: cs) = hitsFrom pattern 0 (c == '\n') cs := by
  rw [hitsFrom, fails]

/-- The search goes on behind the characters that are skipped. -/
theorem hitsFrom_skip (pattern : Pattern α) (taken : List Char) (last : Char) (rest : List Char)
    (lineStart : Bool) :
    hitsFrom pattern (taken.length + 1) lineStart (taken ++ last :: rest) =
      hitsFrom pattern 0 (last == '\n') rest := by
  induction taken generalizing lineStart with
  | nil => rfl
  | cons c taken ih => exact ih (c == '\n')

/-- **The search goes on behind a match.** -/
theorem hitsFrom_of_hit {taken : List Char} {last : Char} {rest : List Char} {lineStart : Bool}
    {hit : Hit α} (applies : pattern lineStart (taken ++ last :: rest) = some hit)
    (length : hit.length = taken.length + 1) :
    hitsFrom pattern 0 lineStart (taken ++ last :: rest) =
      hit.value :: hitsFrom pattern 0 (last == '\n') rest := by
  cases taken with
  | nil =>
      rw [List.nil_append] at applies ⊢
      rw [hitsFrom_cons_of_some applies, length]
      rfl
  | cons c taken =>
      rw [List.cons_append] at applies ⊢
      rw [hitsFrom_cons_of_some applies, length, List.length_cons, Nat.add_sub_cancel,
        hitsFrom_skip]

/-! ### Patterns that belong to the starts of lines -/

/-- **A pattern that applies at the starts of lines only.** -/
def LineBound (pattern : Pattern α) : Prop :=
  ∀ cs, pattern false cs = none

/-- Nothing is found within a line. -/
theorem LineBound.hitsFrom_line (bound : LineBound pattern) {line : List Char} (h : '\n' ∉ line)
    (rest : List Char) :
    hitsFrom pattern 0 false (line ++ rest) = hitsFrom pattern 0 false rest := by
  induction line with
  | nil => rfl
  | cons c line ih =>
      obtain ⟨ne, notMem⟩ := not_or.mp (List.mem_cons.not.mp h)
      have noBreak : (c == '\n') = false := beq_false_of_ne (Ne.symm ne)
      rw [List.cons_append, hitsFrom_cons_of_none (bound _), noBreak, ih notMem]

/-- Nothing is found at the end of a line. -/
theorem LineBound.hitsFrom_behind_cons (bound : LineBound pattern) (line : List Char)
    (lines : List (List Char)) :
    hitsFrom pattern 0 false (behind (line :: lines)) =
      hitsFrom pattern 0 true (line ++ behind lines) := by
  rw [behind_cons, hitsFrom_cons_of_none (bound _)]
  rfl

/-- A line that the pattern does not apply to is passed over. -/
theorem LineBound.hitsFrom_of_none (bound : LineBound pattern) {line : List Char}
    (h : '\n' ∉ line) {lines : List (List Char)}
    (fails : pattern true (line ++ behind lines) = none) :
    hitsFrom pattern 0 true (line ++ behind lines) = hitsFrom pattern 0 false (behind lines) := by
  cases line with
  | nil =>
      cases lines with
      | nil => rfl
      | cons next lines =>
          rw [List.nil_append, behind_cons] at fails ⊢
          rw [hitsFrom_cons_of_none fails, hitsFrom_cons_of_none (bound _)]
  | cons c line =>
      obtain ⟨ne, notMem⟩ := not_or.mp (List.mem_cons.not.mp h)
      have noBreak : (c == '\n') = false := beq_false_of_ne (Ne.symm ne)
      rw [List.cons_append] at fails ⊢
      rw [hitsFrom_cons_of_none fails, noBreak, bound.hitsFrom_line notMem]

end Pattern

end FleetWatch.Notes
