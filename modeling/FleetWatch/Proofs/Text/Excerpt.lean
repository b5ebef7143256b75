import FleetWatch.Text.Excerpt
import Mathlib.Data.List.DropRight
import Mathlib.Data.List.Infix

/-!
# What an excerpt keeps of a text

The opening of a text is the text itself, or a beginning of it with an ellipsis. So it is never
longer than is allowed, and whatever can be found in it without the ellipsis was in the text. An
opening of an opening is the opening for the smaller limit: an excerpt that is cut again does not
tell that it was one already.

## Design Notes

The white space before the ellipsis is cut off, so an opening can be shorter than its limit by any
amount, and a smaller limit can fall into that run of white space. Then the two openings are the
same, which is what `trimEnd_eq_of_prefix` says: what lies between a text and its trimmed form is
trimmed to the same.
-/

namespace FleetWatch.Text

/-! ### Runs -/

section Runs

variable {p : Char → Bool} {run rest : List Char}

/-- A run that what follows does not go on with is all that is taken. -/
theorem takeWhile_append_of_ends (holds : ∀ c ∈ run, p c = true)
    (ends : ∀ c ∈ rest.head?, p c = false) : (run ++ rest).takeWhile p = run := by
  rw [List.takeWhile_append_of_pos holds]
  cases rest with
  | nil => simp
  | cons c rest => simp [ends c rfl]

/-- What follows a run that it does not go on with is all that is left. -/
theorem dropWhile_append_of_ends (holds : ∀ c ∈ run, p c = true)
    (ends : ∀ c ∈ rest.head?, p c = false) : (run ++ rest).dropWhile p = rest := by
  rw [List.dropWhile_append_of_pos holds]
  cases rest with
  | nil => rfl
  | cons c rest => exact List.dropWhile_cons_of_neg (by simp [ends c rfl])

end Runs

/-! ### Trimming the end -/

/-- What is trimmed from the end is the run of white space there. -/
theorem trimEnd_eq_rdropWhile (text : List Char) : trimEnd text = text.rdropWhile isBlank :=
  rfl

/-- A trimmed text begins the text. -/
theorem trimEnd_isPrefix (text : List Char) : trimEnd text <+: text :=
  List.rdropWhile_prefix isBlank text

/-- White space at the end makes no difference to the trimmed text. -/
theorem trimEnd_append_of_blank (text : List Char) {blank : List Char}
    (h : ∀ c ∈ blank, isBlank c = true) : trimEnd (text ++ blank) = trimEnd text := by
  rw [trimEnd, List.reverse_append, List.dropWhile_append_of_pos, trimEnd]
  intro c mem
  exact h c (List.mem_reverse.mp mem)

/-- **What lies between a text and its trimmed form is trimmed to the same.** -/
theorem trimEnd_eq_of_prefix {text start : List Char} (begins : start <+: text)
    (atLeast : trimEnd text <+: start) : trimEnd start = trimEnd text := by
  obtain ⟨rest, rfl⟩ := begins
  obtain ⟨blank, split⟩ := atLeast
  -- Both the blank part of the start and what is behind it are of the run that is trimmed.
  have run : blank ++ rest = (start ++ rest).rtakeWhile isBlank := by
    refine List.append_cancel_left
      (?_ : trimEnd (start ++ rest) ++ _ = trimEnd (start ++ rest) ++ _)
    rw [← List.append_assoc, split, trimEnd_eq_rdropWhile, List.rdropWhile_append_rtakeWhile]
  have allBlank : ∀ c ∈ rest, isBlank c = true := by
    intro c mem
    exact List.mem_rtakeWhile_imp (run ▸ List.mem_append_right blank mem)
  exact (trimEnd_append_of_blank start allBlank).symm

/-! ### Openings -/

/-- A text that is short enough is its own opening. -/
theorem opening_of_length_le {max : Nat} {text : List Char} (h : text.length ≤ max) :
    opening max text = text :=
  if_pos h

/-- Without room there is no opening. -/
theorem opening_zero (text : List Char) : opening 0 text = [] := by
  unfold opening
  split
  · next short => exact List.length_eq_zero_iff.mp (Nat.le_zero.mp short)
  · rfl

/-- The opening of a text that is too long. -/
theorem opening_of_lt_length {max : Nat} {text : List Char} (h : max + 1 < text.length) :
    opening (max + 1) text = trimEnd (text.take max) ++ [ellipsis] := by
  rw [opening, if_neg (Nat.not_le.mpr h), if_neg (Nat.succ_ne_zero max), Nat.add_sub_cancel]

/-- The part of a text before the ellipsis has room for it. -/
theorem length_trimEnd_take_le (max : Nat) (text : List Char) :
    (trimEnd (text.take max)).length ≤ max :=
  (trimEnd_isPrefix _).length_le.trans (List.length_take_le max text)

/-- **The forms of an opening**: the text, nothing where there is no room, or a beginning of the
text with an ellipsis. -/
theorem opening_cases (max : Nat) (text : List Char) :
    opening max text = text ∨ max = 0 ∧ opening max text = [] ∨
      ∃ start, start <+: text ∧ opening max text = start ++ [ellipsis] := by
  rcases Nat.lt_or_ge max text.length with long | short
  · cases max with
    | zero => exact Or.inr (Or.inl ⟨rfl, opening_zero text⟩)
    | succ max =>
        exact Or.inr (Or.inr ⟨_, (trimEnd_isPrefix _).trans (List.take_prefix max text),
          opening_of_lt_length long⟩)
  · exact Or.inl (opening_of_length_le short)

/-- **An opening keeps to its limit.** -/
theorem length_opening_le (max : Nat) (text : List Char) : (opening max text).length ≤ max := by
  unfold opening
  split
  · next short => exact short
  · split
    · exact Nat.zero_le max
    · next room =>
      have start := length_trimEnd_take_le (max - 1) text
      rw [List.length_append, List.length_singleton]
      omega

/-- An opening of a text is empty only without room for it. -/
theorem eq_zero_of_opening_eq_nil {max : Nat} {text : List Char} (nonempty : text ≠ [])
    (h : opening max text = []) : max = 0 := by
  rcases opening_cases max text with same | ⟨zero, -⟩ | ⟨start, -, cut⟩
  · exact absurd (same.symm.trans h) nonempty
  · exact zero
  · rw [cut] at h
    exact absurd h (List.append_ne_nil_of_right_ne_nil start (List.cons_ne_nil _ _))

/-- A beginning of a text with a character behind it, but without that character, begins the
text. -/
theorem prefix_of_prefix_concat {part start : List Char} {last : Char} (notMem : last ∉ part)
    (h : part <+: start ++ [last]) : part <+: start := by
  rcases List.prefix_concat_iff.mp h with rfl | begins
  · exact absurd (List.mem_append_right start (List.mem_singleton_self last)) notMem
  · exact begins

/-- A part of a text with a character behind it, but without that character, is a part of the
text. -/
theorem infix_of_infix_concat {part start : List Char} {last : Char} (notMem : last ∉ part)
    (h : part <:+: start ++ [last]) : part <:+: start := by
  rcases List.infix_concat_iff.mp h with ends | inside
  · rcases List.suffix_concat_iff.mp ends with rfl | ⟨rest, rfl, -⟩
    · exact List.nil_infix
    · exact absurd (List.mem_append_right rest (List.mem_singleton_self last)) notMem
  · exact inside

/-- **An opening begins like its text**, up to the ellipsis. -/
theorem prefix_of_prefix_opening {max : Nat} {part text : List Char} (notMem : ellipsis ∉ part)
    (h : part <+: opening max text) : part <+: text := by
  rcases opening_cases max text with same | ⟨-, nothing⟩ | ⟨start, begins, cut⟩
  · exact same ▸ h
  · rw [nothing, List.prefix_nil] at h
    exact h ▸ List.nil_prefix
  · exact (prefix_of_prefix_concat notMem (cut ▸ h)).trans begins

/-- **An opening holds nothing that its text does not hold**, but the ellipsis. -/
theorem infix_of_infix_opening {max : Nat} {part text : List Char} (notMem : ellipsis ∉ part)
    (h : part <:+: opening max text) : part <:+: text := by
  rcases opening_cases max text with same | ⟨-, nothing⟩ | ⟨start, begins, cut⟩
  · exact same ▸ h
  · rw [nothing, List.infix_nil] at h
    exact h ▸ List.nil_infix
  · exact (infix_of_infix_concat notMem (cut ▸ h)).trans begins.isInfix

/-! ### Openings of openings -/

/-- A smaller limit that leaves room for what a larger one has left makes no difference. -/
theorem trimEnd_take_eq_of_length_le {small large : Nat} {text : List Char} (le : small ≤ large)
    (room : (trimEnd (text.take large)).length ≤ small) :
    trimEnd (text.take small) = trimEnd (text.take large) := by
  have begins : text.take small <+: text.take large := List.take_prefix_take_left le
  refine trimEnd_eq_of_prefix begins ?_
  rw [List.prefix_take_iff]
  exact ⟨(trimEnd_isPrefix _).trans (List.take_prefix large text), room⟩

/-- An opening that is cut to a smaller limit is the opening for that limit. -/
theorem opening_opening_of_le {small large : Nat} (le : small ≤ large) (text : List Char) :
    opening small (opening large text) = opening small text := by
  rcases Nat.lt_or_ge large text.length with long | short
  · cases small with
    | zero => rw [opening_zero, opening_zero]
    | succ small =>
        obtain ⟨large, rfl⟩ := Nat.exists_eq_add_of_le' (Nat.one_le_of_lt le)
        have le : small ≤ large := Nat.le_of_succ_le_succ le
        have once : opening (small + 1) text = trimEnd (text.take small) ++ [ellipsis] :=
          opening_of_lt_length (Nat.lt_of_le_of_lt (Nat.succ_le_succ le) long)
        have length : (trimEnd (text.take large) ++ [ellipsis]).length =
            (trimEnd (text.take large)).length + 1 := List.length_append
        rw [opening_of_lt_length long, once]
        rcases Nat.lt_or_ge small (trimEnd (text.take large)).length with cut | room
        · -- The smaller limit falls into what the larger one has left.
          have same : (trimEnd (text.take large)).take small = text.take small := by
            obtain ⟨rest, split⟩ := (trimEnd_isPrefix _).trans (List.take_prefix large text)
            conv_rhs => rw [← split]
            exact (List.take_append_of_le_length (Nat.le_of_lt cut)).symm
          rw [opening_of_lt_length (length ▸ Nat.succ_lt_succ cut),
            List.take_append_of_le_length (Nat.le_of_lt cut), same]
        · -- It falls into the white space that was cut off, or just behind the ellipsis.
          rw [opening_of_length_le (length ▸ Nat.succ_le_succ room),
            trimEnd_take_eq_of_length_le le room]
  · rw [opening_of_length_le short]

/-- **Openings of openings**: a text that is cut twice is cut once, to the smaller limit. -/
theorem opening_opening (first second : Nat) (text : List Char) :
    opening second (opening first text) = opening (min first second) text := by
  rcases Nat.le_total second first with le | le
  · rw [Nat.min_eq_right le, opening_opening_of_le le]
  · rw [Nat.min_eq_left le,
      opening_of_length_le ((length_opening_le first text).trans le)]

/-! ### What is cut -/

/-- A text is its own opening just where it is short enough. -/
theorem opening_eq_self_iff {max : Nat} {text : List Char} :
    opening max text = text ↔ text.length ≤ max := by
  refine ⟨fun same => ?_, opening_of_length_le⟩
  rw [← same]
  exact length_opening_le max text

/-- A text is a trimmed text with white space behind it. -/
theorem exists_trimEnd_append (text : List Char) :
    ∃ blank, text = trimEnd text ++ blank ∧ (∀ c ∈ blank, isBlank c = true) ∧
      ∀ c ∈ (trimEnd text).getLast?, isBlank c = false := by
  refine ⟨text.rtakeWhile isBlank, ?_, fun c mem => List.mem_rtakeWhile_imp mem, ?_⟩
  · rw [trimEnd_eq_rdropWhile, List.rdropWhile_append_rtakeWhile]
  · intro c last
    obtain ⟨nonempty, rfl⟩ := List.mem_getLast?_eq_getLast last
    rw [← Bool.not_eq_true]
    exact List.rdropWhile_last_not isBlank text nonempty

/-- **Cutting composes, and keeps what there is room for.** A text that is cut twice is cut once, to
the smaller limit. What is left is never longer than the limit, and is the text itself just where
that is short enough. Of a longer text it is one character fewer than there is room for, without the
white space at their end, and one ellipsis. -/
theorem opening_opening_min (text : List Char) (first second : Nat) :
    opening second (opening first text) = opening (min first second) text ∧
    (opening first text).length ≤ first ∧
    (opening first text = text ↔ text.length ≤ first) ∧
    (1 ≤ first → first < text.length →
      ∃ kept blank, text.take (first - 1) = kept ++ blank ∧ (∀ c ∈ blank, isBlank c = true) ∧
        (∀ c ∈ kept.getLast?, isBlank c = false) ∧ opening first text = kept ++ [ellipsis]) := by
  refine ⟨opening_opening first second text, length_opening_le first text, opening_eq_self_iff, ?_⟩
  intro room long
  obtain ⟨limit, rfl⟩ := Nat.exists_eq_add_of_le' room
  obtain ⟨blank, split, allBlank, last⟩ := exists_trimEnd_append (text.take limit)
  exact ⟨_, blank, split, allBlank, last, opening_of_lt_length long⟩

/-- Two limits that fall into the same run of white space leave the same. -/
theorem opening_opening_min_same_run :
    let text := "one    two three".toList
    1 ≤ 7 ∧ 7 < text.length ∧ opening 5 (opening 7 text) = "one…".toList ∧
      ∃ kept blank, text.take 6 = kept ++ blank ∧ (∀ c ∈ blank, isBlank c = true) ∧
        (∀ c ∈ kept.getLast?, isBlank c = false) ∧ opening 7 text = kept ++ [ellipsis] := by
  intro text
  have room : 1 ≤ 7 := by decide
  have long : 7 < text.length := by decide
  obtain ⟨composed, -, -, form⟩ := opening_opening_min text 7 5
  have five : opening (min 7 5) text = "one…".toList := by decide
  exact ⟨room, long, composed.trans five, form room long⟩

end FleetWatch.Text
