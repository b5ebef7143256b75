import FleetWatch.Text.Search
import FleetWatch.Text.Utf8
import Mathlib.Data.List.Basic
import Mathlib.Data.UInt

/-!
# Lines of bytes

A file is read as text before the text is cut into lines. This module shows that the two can be
exchanged: the lines of the text are the texts of the lines, whatever the bytes are.

The reason is that a malformed part never reaches over a line end. A byte below `0x80` cannot
continue a sequence, so it ends a sequence that has begun as a malformed part and stands for itself;
and no longer sequence stands for a character below `U+0080`.

## Main Definitions

* `Utf8.Pending.Valid` — the sequences that can have begun
* `lastSegment` — the part of a sequence behind its last separator

## Design Notes

`Utf8.Decoder.step` is followed by two invariants of a run: the chunks before a point do not
matter for what comes behind it (`Utf8.foldl_step_over`), and a sequence that has begun cannot
be continued by a byte below `0x80` and ends beyond `U+0080` (`Utf8.Pending.Valid`).
-/

namespace FleetWatch.Text

/-! ### Segments -/

section Segments

variable {α : Type} [BEq α] [LawfulBEq α] (separator : α)

omit [LawfulBEq α] in
@[simp] theorem segments_nil : segments separator ([] : List α) = [[]] := rfl

omit [LawfulBEq α] in
theorem segments_ne_nil (sequence : List α) : segments separator sequence ≠ [] :=
  List.cons_ne_nil _ _

@[simp] theorem segments_cons_separator (rest : List α) :
    segments separator (separator :: rest) = [] :: segments separator rest := by
  simp [segments]

omit [LawfulBEq α] in
theorem segments_cons_of_ne {a : α} (h : (a == separator) = false) (rest : List α) :
    segments separator (a :: rest) = (segments separator rest).modifyHead (a :: ·) := by
  simp [segments, h]

/-- A separator cuts a sequence in two. -/
theorem segments_append_separator (before after : List α) :
    segments separator (before ++ separator :: after) =
      segments separator before ++ segments separator after := by
  induction before with
  | nil => simp
  | cons a before ih =>
      rw [List.cons_append]
      cases h : a == separator with
      | true =>
          rw [eq_of_beq h, segments_cons_separator, segments_cons_separator, ih, List.cons_append]
      | false =>
          rw [segments_cons_of_ne separator h, segments_cons_of_ne separator h, ih]
          cases parts : segments separator before with
          | nil => exact absurd parts (segments_ne_nil separator before)
          | cons first parts => rfl

/-- A sequence without separators is one part. -/
theorem segments_of_notMem {sequence : List α} (h : separator ∉ sequence) :
    segments separator sequence = [sequence] := by
  induction sequence with
  | nil => rfl
  | cons a rest ih =>
      obtain ⟨ne, notMem⟩ := not_or.mp (List.mem_cons.not.mp h)
      have ne' : (a == separator) = false := beq_false_of_ne (Ne.symm ne)
      rw [segments_cons_of_ne separator ne', ih notMem, List.modifyHead_cons]

omit [LawfulBEq α] in
theorem segments_eq_splitOn (sequence : List α) :
    segments separator sequence = sequence.splitOn separator := by
  induction sequence with
  | nil => rfl
  | cons a rest ih =>
      rw [List.splitOn, List.splitOnP_cons_eq_if_modifyHead, ← List.splitOn, ← ih]
      cases h : a == separator with
      | true => simp [segments, h]
      | false => simp [segments_cons_of_ne separator h]

/-- There is no separator in a part. -/
theorem separator_notMem_of_mem_segments {sequence part : List α}
    (h : part ∈ segments separator sequence) : separator ∉ part := by
  induction sequence generalizing part with
  | nil =>
      rw [segments_nil, List.mem_singleton] at h
      subst h
      exact List.not_mem_nil
  | cons a rest ih =>
      cases isSeparator : a == separator with
      | true =>
          rw [eq_of_beq isSeparator, segments_cons_separator] at h
          rcases List.mem_cons.mp h with rfl | mem
          · exact List.not_mem_nil
          · exact ih mem
      | false =>
          rw [segments_cons_of_ne separator isSeparator] at h
          cases parts : segments separator rest with
          | nil => exact absurd parts (segments_ne_nil separator rest)
          | cons first others =>
              rw [parts, List.modifyHead_cons] at h
              rcases List.mem_cons.mp h with rfl | mem
              · have notMem := ih (parts ▸ List.mem_cons_self)
                have ne : separator ≠ a := Ne.symm (ne_of_beq_false isSeparator)
                exact List.mem_cons.not.mpr (not_or.mpr ⟨ne, notMem⟩)
              · exact ih (parts ▸ List.mem_cons_of_mem first mem)

/-- Parts without separators are those of the sequence that is joined of them. -/
theorem segments_intercalate {parts : List (List α)} (ne : parts ≠ [])
    (h : ∀ part ∈ parts, separator ∉ part) :
    segments separator (List.intercalate [separator] parts) = parts := by
  rw [segments_eq_splitOn, List.splitOn_intercalate _ h ne]

/-- The part of a sequence behind its last separator. -/
def lastSegment (sequence : List α) : List α :=
  (segments separator sequence).getLast (segments_ne_nil separator sequence)

omit [BEq α] [LawfulBEq α] in
/-- A sequence with a separator in it has a last one. -/
theorem exists_last_separator {sequence : List α} (h : separator ∈ sequence) :
    ∃ before after, sequence = before ++ separator :: after ∧ separator ∉ after := by
  obtain ⟨after, before, split, notMem⟩ :=
    List.eq_append_cons_of_mem (List.mem_reverse.mpr h)
  refine ⟨before.reverse, after.reverse, ?_, by simpa using notMem⟩
  have reversed := congrArg List.reverse split
  simpa using reversed

/-- A sequence that has separators, cut at the last of them. -/
theorem segments_of_last_separator (before : List α) {after : List α} (h : separator ∉ after) :
    segments separator (before ++ separator :: after) = segments separator before ++ [after] := by
  rw [segments_append_separator, segments_of_notMem separator h]

/-- There is no separator behind the last one. -/
theorem separator_notMem_lastSegment (sequence : List α) :
    separator ∉ lastSegment separator sequence := by
  by_cases h : separator ∈ sequence
  · obtain ⟨before, after, rfl, notMem⟩ := exists_last_separator separator h
    simpa [lastSegment, segments_of_last_separator separator before notMem] using notMem
  · simpa [lastSegment, segments_of_notMem separator h] using h

/-- **What is added behind a sequence leaves its closed parts alone.** Only the open part at its
end goes on. -/
theorem segments_append (sequence rest : List α) :
    segments separator (sequence ++ rest) =
      (segments separator sequence).dropLast ++
        segments separator (lastSegment separator sequence ++ rest) := by
  by_cases h : separator ∈ sequence
  · obtain ⟨before, after, rfl, notMem⟩ := exists_last_separator separator h
    simp only [lastSegment, segments_of_last_separator separator before notMem]
    rw [List.getLast_append_singleton, List.dropLast_concat, List.append_assoc, List.cons_append,
      segments_append_separator]
  · simp [lastSegment, segments_of_notMem separator h]

end Segments

/-! ### The decoder at a line end -/

namespace Utf8

/-- A decoder with chunks from before put under its own. -/
def Decoder.over (base : List (Option Char)) (d : Decoder) : Decoder :=
  ⟨d.pending, d.chunks ++ base⟩

/-- The chunks from before a step do not matter for it. -/
theorem step_over (base : List (Option Char)) (d : Decoder) (b : UInt8) :
    (d.over base).step b = (d.step b).over base := by
  have lead : ∀ chunks : List (Option Char),
      Decoder.lead (chunks ++ base) b = (Decoder.lead chunks b).over base := by
    intro chunks
    unfold Decoder.lead
    cases Lead.of b <;> rfl
  obtain ⟨pending, chunks⟩ := d
  cases pending with
  | none => exact lead chunks
  | some p =>
      simp only [Decoder.step, Decoder.over]
      split
      · split <;> rfl
      · exact lead (none :: chunks)

theorem foldl_step_over (base : List (Option Char)) (bytes : List UInt8) (d : Decoder) :
    bytes.foldl Decoder.step (d.over base) = (bytes.foldl Decoder.step d).over base := by
  induction bytes generalizing d with
  | nil => rfl
  | cons b bytes ih => rw [List.foldl_cons, step_over, ih, List.foldl_cons]

theorem finish_over (base : List (Option Char)) (d : Decoder) :
    (d.over base).finish = base.reverse ++ d.finish := by
  obtain ⟨pending, chunks⟩ := d
  cases pending <;> simp [Decoder.finish, Decoder.over]

/-- **A sequence that can have begun**: it is not continued by a byte below `0x80`, and when it is
complete it stands for a character from `U+0080` on. -/
structure Pending.Valid (p : Pending) : Prop where
  low : 0x80 ≤ p.low.toNat
  last : p.missing ≤ 1 → 2 ≤ p.payload
  continued : ∀ b : UInt8, p.low ≤ b → b ≤ p.high → 2 ≤ p.payload * 64 + b.toNat % 64

/-- The bounds of the next byte and the payload so far decide what can have begun. A payload of
zero or one must be followed by more than one byte, and zero by one that is not the least. -/
theorem Pending.Valid.of_bounds {missing payload : Nat} {low high : UInt8}
    (hlow : 0x80 ≤ low.toNat) (hhigh : high.toNat ≤ 0xBF)
    (begun : 2 ≤ payload ∨ 1 < missing ∧ (1 ≤ payload ∨ 0x82 ≤ low.toNat)) :
    Pending.Valid ⟨missing, low, high, payload⟩ := by
  refine ⟨hlow, ?_, ?_⟩
  · intro h
    simp only at h ⊢
    omega
  · intro b hb hb'
    rw [UInt8.le_iff_toNat_le] at hb hb'
    simp only at hb hb' ⊢
    omega

/-- A first byte begins a sequence that can have begun. -/
theorem valid_of_lead {b : UInt8} {p : Pending} (h : Lead.of b = .longer p) : p.Valid := by
  simp only [Lead.of, UInt8.lt_iff_toNat_lt] at h
  -- One case for each row of the table of first bytes.
  split at h
  · cases h
  split at h
  · cases h
  split at h
  · next second third =>
    cases h
    have low : 0xC2 ≤ b.toNat := Nat.not_lt.mp second
    have high : b.toNat < 0xE0 := third
    exact .of_bounds (by decide) (by decide) (Or.inl (by omega))
  split at h
  · cases h
    exact .of_bounds (by decide) (by decide) (Or.inr ⟨by decide, Or.inr (by decide)⟩)
  split at h
  · cases h
    exact .of_bounds (by decide) (by decide) (Or.inl (by decide))
  split at h
  · next notLess notE0 _ less =>
    cases h
    have low : 0xE0 ≤ b.toNat := Nat.not_lt.mp notLess
    have high : b.toNat < 0xF0 := less
    have ne : b.toNat ≠ 0xE0 := fun eq => notE0 (UInt8.toNat_inj.mp eq)
    exact .of_bounds (by decide) (by decide) (Or.inr ⟨by decide, Or.inl (by omega)⟩)
  split at h
  · cases h
    exact .of_bounds (by decide) (by decide) (Or.inr ⟨by decide, Or.inr (by decide)⟩)
  split at h
  · next notLess notF0 less =>
    cases h
    have low : 0xF0 ≤ b.toNat := Nat.not_lt.mp notLess
    have high : b.toNat < 0xF4 := less
    have ne : b.toNat ≠ 0xF0 := fun eq => notF0 (UInt8.toNat_inj.mp eq)
    exact .of_bounds (by decide) (by decide) (Or.inr ⟨by decide, Or.inl (by omega)⟩)
  split at h
  · cases h
    exact .of_bounds (by decide) (by decide) (Or.inl (by decide))
  · cases h

/-- The decoder holds back only a sequence that can have begun. -/
def Decoder.Valid (d : Decoder) : Prop :=
  ∀ p, d.pending = some p → p.Valid

theorem Decoder.valid_lead (chunks : List (Option Char)) (b : UInt8) :
    (Decoder.lead chunks b).Valid := by
  intro p h
  unfold Decoder.lead at h
  cases announced : Lead.of b with
  | single => simp [announced] at h
  | longer pending =>
      simp only [announced, Option.some.injEq] at h
      exact valid_of_lead (h ▸ announced)
  | malformed => simp [announced] at h

/-- **A step keeps the decoder valid.** -/
theorem Decoder.Valid.step {d : Decoder} (valid : d.Valid) (b : UInt8) : (d.step b).Valid := by
  unfold Decoder.step
  split
  · exact Decoder.valid_lead _ _
  · next p pending =>
    have begun := valid p pending
    split
    · next range =>
      obtain ⟨low, high⟩ := Bool.and_eq_true_iff.mp range
      have payload := begun.continued b (by simpa using low) (by simpa using high)
      dsimp only
      split
      · intro q h
        cases h
      · intro q h
        cases h
        exact .of_bounds (by decide) (by decide) (Or.inl payload)
    · exact Decoder.valid_lead _ _

theorem Decoder.Valid.foldl {d : Decoder} (valid : d.Valid) (bytes : List UInt8) :
    (bytes.foldl Decoder.step d).Valid := by
  induction bytes generalizing d with
  | nil => exact valid
  | cons b bytes ih => exact ih (valid.step b)

theorem Decoder.valid_start : Decoder.start.Valid := by
  intro p h
  cases h

/-- **A byte below `0x80` stands for itself** and leaves nothing held back: what has begun before
it is a malformed part. -/
theorem Decoder.Valid.step_single {d : Decoder} (valid : d.Valid) {b : UInt8} (h : b < 0x80) :
    d.step b = ⟨none, some (Char.ofNat b.toNat) :: d.finish.reverse⟩ := by
  have single : Lead.of b = .single := by rw [Lead.of, if_pos h]
  obtain ⟨pending, chunks⟩ := d
  cases pending with
  | none => simp [Decoder.step, Decoder.lead, single, Decoder.finish]
  | some p =>
      -- The byte lies below all that can continue a sequence.
      have low := (valid p rfl).low
      have notLow : ¬ p.low ≤ b := by
        rw [UInt8.lt_iff_toNat_lt] at h
        rw [UInt8.le_iff_toNat_le]
        have : b.toNat < 0x80 := h
        omega
      simp [Decoder.step, Decoder.lead, single, Decoder.finish, notLow]

/-- **Decoding is local at a byte below `0x80`**: what comes before it and what comes behind it are
decoded on their own. -/
theorem chunks_append_single (before after : List UInt8) {b : UInt8} (h : b < 0x80) :
    chunks (before ++ b :: after) =
      chunks before ++ some (Char.ofNat b.toNat) :: chunks after := by
  have valid := Decoder.valid_start.foldl before
  rw [chunks, List.foldl_append, List.foldl_cons, valid.step_single h]
  have start : (⟨none, some (Char.ofNat b.toNat) ::
      (before.foldl Decoder.step .start).finish.reverse⟩ : Decoder) =
      Decoder.start.over
        (some (Char.ofNat b.toNat) :: (before.foldl Decoder.step .start).finish.reverse) := rfl
  rw [start, foldl_step_over, finish_over, List.reverse_cons, List.reverse_reverse,
    List.append_assoc, List.singleton_append]
  rfl

/-! ### Line ends -/

/-- The line end is the character of its code point only. -/
theorem eq_of_ofNat_eq_newline {n : Nat} (h : Char.ofNat n = '\n') : n = 10 := by
  by_cases valid : n.isValidChar
  · rw [Char.ofNat, dif_pos valid] at h
    exact congrArg Char.toNat h
  · rw [Char.ofNat, dif_neg valid] at h
    exact absurd (congrArg Char.toNat h) (by decide)

/-- A first byte makes a line end only if it is one. -/
theorem Decoder.newline_of_mem_lead {chunks : List (Option Char)} {b : UInt8}
    (h : some '\n' ∈ (Decoder.lead chunks b).chunks) : some '\n' ∈ chunks ∨ b = 0x0A := by
  unfold Decoder.lead at h
  split at h
  · rcases List.mem_cons.mp h with newline | mem
    · have code := eq_of_ofNat_eq_newline (Option.some.inj newline).symm
      exact Or.inr (UInt8.toNat_inj.mp code)
    · exact Or.inl mem
  · exact Or.inl h
  · exact Or.inl (by simpa using h)

/-- **A step makes a line end only of the byte that is one**: what a longer sequence stands for lies
beyond it. -/
theorem Decoder.Valid.newline_of_mem_step {d : Decoder} (valid : d.Valid) {b : UInt8}
    (h : some '\n' ∈ (d.step b).chunks) : some '\n' ∈ d.chunks ∨ b = 0x0A := by
  unfold Decoder.step at h
  split at h
  · exact Decoder.newline_of_mem_lead h
  · next p pending =>
    have begun := valid p pending
    split at h
    · dsimp only at h
      split at h
      · next last =>
        rcases List.mem_cons.mp h with newline | mem
        · -- A complete sequence stands for `U+0080` at least.
          have code := eq_of_ofNat_eq_newline (Option.some.inj newline).symm
          have payload := begun.last last
          omega
        · exact Or.inl mem
      · exact Or.inl h
    · rcases Decoder.newline_of_mem_lead h with mem | newline
      · exact Or.inl (by simpa using mem)
      · exact Or.inr newline

theorem Decoder.Valid.newline_of_mem_foldl {d : Decoder} (valid : d.Valid) {bytes : List UInt8}
    (h : some '\n' ∈ (bytes.foldl Decoder.step d).chunks) :
    some '\n' ∈ d.chunks ∨ 0x0A ∈ bytes := by
  induction bytes generalizing d with
  | nil => exact Or.inl h
  | cons b bytes ih =>
      rcases ih (valid.step b) h with mem | mem
      · rcases valid.newline_of_mem_step mem with mem | rfl
        · exact Or.inl mem
        · exact Or.inr List.mem_cons_self
      · exact Or.inr (List.mem_cons_of_mem b mem)

/-- **Bytes without a line end are text without a line end.** -/
theorem newline_notMem_decodeLossy {bytes : List UInt8} (h : 0x0A ∉ bytes) :
    '\n' ∉ decodeLossy bytes := by
  intro mem
  obtain ⟨chunk, memChunk, newline⟩ := List.mem_map.mp mem
  have isNewline : chunk = some '\n' := by
    cases chunk with
    | none => exact absurd newline (by decide)
    | some c => exact congrArg some newline
  subst isNewline
  have memDecoder : some '\n' ∈ (bytes.foldl Decoder.step .start).chunks := by
    unfold chunks Decoder.finish at memChunk
    split at memChunk
    · exact List.mem_reverse.mp memChunk
    · simpa using memChunk
  rcases Decoder.valid_start.newline_of_mem_foldl memDecoder with start | mem
  · cases start
  · exact h mem

/-- A line end cuts the text where it cuts the bytes. -/
theorem decodeLossy_append_newline (before after : List UInt8) :
    decodeLossy (before ++ 0x0A :: after) = decodeLossy before ++ '\n' :: decodeLossy after := by
  rw [decodeLossy, chunks_append_single before after (by decide), List.map_append, List.map_cons]
  rfl

/-- **The lines of a text are the texts of the lines.** -/
theorem segments_decodeLossy (bytes : List UInt8) :
    segments '\n' (decodeLossy bytes) = (segments 0x0A bytes).map decodeLossy := by
  induction length : bytes.length using Nat.strong_induction_on generalizing bytes with
  | _ n ih =>
      by_cases h : 0x0A ∈ bytes
      · -- The last line is taken off, and what is before it is shorter.
        obtain ⟨before, after, rfl, notMem⟩ := exists_last_separator 0x0A h
        have shorter : before.length < n := by
          simp only [List.length_append, List.length_cons] at length
          omega
        rw [decodeLossy_append_newline, segments_of_last_separator 0x0A before notMem,
          segments_of_last_separator '\n' _ (newline_notMem_decodeLossy notMem),
          ih before.length shorter before rfl, List.map_append, List.map_singleton]
      · rw [segments_of_notMem 0x0A h, segments_of_notMem '\n' (newline_notMem_decodeLossy h),
          List.map_singleton]

end Utf8

end FleetWatch.Text
