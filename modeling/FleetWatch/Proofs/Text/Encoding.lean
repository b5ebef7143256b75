import FleetWatch.Text.Utf8
import Mathlib.Tactic.IntervalCases

/-!
# Reading encoded text

The bytes of a text are read as that text, character by character: the decoder takes the bytes of a
character from a state in which nothing is held back to the same state, with one more chunk.

## Design Notes

A first byte announces the range of the byte behind it, which rules out overlong forms, surrogates
and code points beyond the last. An encoded character keeps to these ranges because its code point
is not short enough for fewer bytes, and is valid.
-/

namespace FleetWatch.Text.Utf8

/-! ### What first bytes announce -/

theorem lead_of_one {n : Nat} (h : n ≤ 127) : Lead.of (UInt8.ofNat n) = .single := by
  have small : UInt8.ofNat n < 0x80 := by
    rw [UInt8.lt_iff_toNat_lt, UInt8.toNat_ofNat']
    show n % 256 < 128
    omega
  rw [Lead.of, if_pos small]

theorem lead_of_two {n : Nat} (low : 2 ≤ n) (high : n < 32) :
    Lead.of (UInt8.ofNat (n + 192)) = .longer ⟨1, 0x80, 0xBF, n⟩ := by
  interval_cases n <;> rfl

theorem lead_of_three {n : Nat} (h : n < 16) :
    Lead.of (UInt8.ofNat (n + 224)) =
      .longer ⟨2, if n = 0 then 0xA0 else 0x80, if n = 13 then 0x9F else 0xBF, n⟩ := by
  interval_cases n <;> rfl

theorem lead_of_four {n : Nat} (h : n < 5) :
    Lead.of (UInt8.ofNat (n + 240)) =
      .longer ⟨3, if n = 0 then 0x90 else 0x80, if n = 4 then 0x8F else 0xBF, n⟩ := by
  interval_cases n <;> rfl

/-! ### Characters -/

section Pending

variable (chunks : List (Option Char)) {low high : UInt8} {payload n : Nat}

/-- A byte in the announced range goes on with the sequence that has begun. -/
theorem step_pending (missing : Nat) (h : n < 64) (above : low.toNat ≤ n + 128)
    (below : n + 128 ≤ high.toNat) :
    Decoder.step ⟨some ⟨missing, low, high, payload⟩, chunks⟩ (UInt8.ofNat (n + 128)) =
      if missing ≤ 1 then ⟨none, some (Char.ofNat (payload * 64 + n)) :: chunks⟩
      else ⟨some ⟨missing - 1, 0x80, 0xBF, payload * 64 + n⟩, chunks⟩ := by
  have value : (UInt8.ofNat (n + 128)).toNat = n + 128 := by
    rw [UInt8.toNat_ofNat']
    omega
  have inRange : (low ≤ UInt8.ofNat (n + 128) && UInt8.ofNat (n + 128) ≤ high) = true := by
    simp only [Bool.and_eq_true, decide_eq_true_eq, UInt8.le_iff_toNat_le, value]
    exact ⟨above, below⟩
  have bits : (UInt8.ofNat (n + 128)).toNat % 64 = n := by omega
  simp only [Decoder.step, inRange, if_true, bits]

/-- The last byte of a sequence completes its character. -/
theorem step_last (h : n < 64) (above : low.toNat ≤ n + 128) (below : n + 128 ≤ high.toNat) :
    Decoder.step ⟨some ⟨1, low, high, payload⟩, chunks⟩ (UInt8.ofNat (n + 128)) =
      ⟨none, some (Char.ofNat (payload * 64 + n)) :: chunks⟩ := by
  rw [step_pending chunks 1 h above below, if_pos (Nat.le_refl 1)]

/-- After any byte in the middle, the next one can be any that goes on with a sequence. -/
theorem step_middle (missing : Nat) (h : n < 64) (above : low.toNat ≤ n + 128)
    (below : n + 128 ≤ high.toNat) :
    Decoder.step ⟨some ⟨missing + 2, low, high, payload⟩, chunks⟩ (UInt8.ofNat (n + 128)) =
      ⟨some ⟨missing + 1, 0x80, 0xBF, payload * 64 + n⟩, chunks⟩ := by
  rw [step_pending chunks (missing + 2) h above below, if_neg (by omega)]
  rfl

/-- The first byte of a longer sequence leaves what it announces held back. -/
theorem step_first {b : UInt8} {p : Pending} (h : Lead.of b = .longer p) :
    Decoder.step ⟨none, chunks⟩ b = ⟨some p, chunks⟩ := by
  simp only [Decoder.step, Decoder.lead, h]

end Pending

/-- **The decoder takes the bytes of a character to that character**, with nothing held back. -/
theorem foldl_step_encodeChar (chunks : List (Option Char)) (c : Char) :
    (String.utf8EncodeChar c).foldl Decoder.step ⟨none, chunks⟩ = ⟨none, some c :: chunks⟩ := by
  have valid : c.toNat < 0xD800 ∨ 0xDFFF < c.toNat ∧ c.toNat < 0x110000 := c.valid
  have self : Char.ofNat c.toNat = c := Char.ofNat_toNat c
  have code : c.val.toNat = c.toNat := rfl
  have between : ∀ n, n < 64 → (0x80 : UInt8).toNat ≤ n + 128 ∧ n + 128 ≤ (0xBF : UInt8).toNat := by
    intro n h
    show 128 ≤ n + 128 ∧ n + 128 ≤ 191
    omega
  unfold String.utf8EncodeChar
  rw [code]
  generalize c.toNat = v at valid self
  have last : v % 64 < 64 := by omega
  have middle : v / 64 % 64 < 64 := by omega
  dsimp only
  split
  · next one =>
    have byte : v % 2 ^ 8 = v := by omega
    rw [List.foldl_cons, List.foldl_nil, Decoder.step, Decoder.lead]
    simp only [lead_of_one one, UInt8.toNat_ofNat', byte, self]
  split
  · next notOne two =>
    have payload : v / 64 % 32 * 64 + v % 64 = v := by omega
    rw [List.foldl_cons, step_first _ (lead_of_two (by omega) (by omega)), List.foldl_cons,
      step_last _ last (between _ last).1 (between _ last).2, List.foldl_nil, payload, self]
  split
  · next notTwo three =>
    -- The second byte of a code point from `U+0800` on is not too small after the first byte
    -- `0xE0`, and of one that is no surrogate it is not too large after `0xED`.
    have above : (if v / 4096 % 16 = 0 then 0xA0 else 0x80 : UInt8).toNat ≤ v / 64 % 64 + 128 := by
      split
      · show 160 ≤ v / 64 % 64 + 128
        omega
      · exact (between _ middle).1
    have below : v / 64 % 64 + 128 ≤
        (if v / 4096 % 16 = 13 then 0x9F else 0xBF : UInt8).toNat := by
      split
      · show v / 64 % 64 + 128 ≤ 159
        omega
      · exact (between _ middle).2
    have payload : (v / 4096 % 16 * 64 + v / 64 % 64) * 64 + v % 64 = v := by omega
    rw [List.foldl_cons, step_first _ (lead_of_three (by omega)), List.foldl_cons,
      step_middle _ 0 middle above below, List.foldl_cons,
      step_last _ last (between _ last).1 (between _ last).2, List.foldl_nil, payload, self]
  · next notThree =>
    have second : v / 4096 % 64 < 64 := by omega
    -- Likewise from `U+10000` on, and up to the last code point.
    have above : (if v / 262144 % 8 = 0 then 0x90 else 0x80 : UInt8).toNat ≤
        v / 4096 % 64 + 128 := by
      split
      · show 144 ≤ v / 4096 % 64 + 128
        omega
      · exact (between _ second).1
    have below : v / 4096 % 64 + 128 ≤
        (if v / 262144 % 8 = 4 then 0x8F else 0xBF : UInt8).toNat := by
      split
      · show v / 4096 % 64 + 128 ≤ 143
        omega
      · exact (between _ second).2
    have payload :
        ((v / 262144 % 8 * 64 + v / 4096 % 64) * 64 + v / 64 % 64) * 64 + v % 64 = v := by
      omega
    rw [List.foldl_cons, step_first _ (lead_of_four (by omega)), List.foldl_cons,
      step_middle _ 1 second above below, List.foldl_cons,
      step_middle _ 0 middle (between _ middle).1 (between _ middle).2, List.foldl_cons,
      step_last _ last (between _ last).1 (between _ last).2, List.foldl_nil, payload, self]

theorem foldl_step_encode (text : List Char) (chunks : List (Option Char)) :
    (encode text).foldl Decoder.step ⟨none, chunks⟩ =
      ⟨none, (text.map some).reverse ++ chunks⟩ := by
  induction text generalizing chunks with
  | nil => rfl
  | cons c text ih =>
      have first : encode (c :: text) = String.utf8EncodeChar c ++ encode text := rfl
      rw [first, List.foldl_append, foldl_step_encodeChar, ih]
      simp

/-- **Encoded text is read in characters**, none of which is malformed. -/
theorem chunks_encode (text : List Char) : chunks (encode text) = text.map some := by
  rw [chunks, Decoder.start, foldl_step_encode]
  simp [Decoder.finish]

/-- **Encoded text is read as it is.** -/
theorem decodeLossy_encode (text : List Char) : decodeLossy (encode text) = text := by
  rw [decodeLossy, chunks_encode, List.map_map]
  exact List.map_id text

/-! ### ASCII -/

/-- A character beyond ASCII has no byte of ASCII in its form. -/
theorem le_of_mem_encodeChar {c : Char} (beyond : 0x80 ≤ c.toNat) {b : UInt8}
    (mem : b ∈ String.utf8EncodeChar c) : 0x80 ≤ b.toNat := by
  have code : c.val.toNat = c.toNat := rfl
  rw [String.utf8EncodeChar, code, if_neg (by omega)] at mem
  -- Each byte is a few bits of the code point above a mark of at least `0x80`.
  have marked : ∀ n mark, 0x80 ≤ mark → n + mark < 256 → 0x80 ≤ (UInt8.ofNat (n + mark)).toNat := by
    intro n mark high bound
    rw [UInt8.toNat_ofNat', Nat.mod_eq_of_lt bound]
    exact Nat.le_add_left_of_le high
  split_ifs at mem <;> simp only [List.mem_cons, List.not_mem_nil, or_false] at mem
  · obtain rfl | rfl := mem <;> exact marked _ _ (by omega) (by omega)
  · obtain rfl | rfl | rfl := mem <;> exact marked _ _ (by omega) (by omega)
  · obtain rfl | rfl | rfl | rfl := mem <;> exact marked _ _ (by omega) (by omega)

/-- A character is of ASCII just if all bytes of its form are. -/
theorem all_lt_encodeChar (c : Char) :
    (String.utf8EncodeChar c).all (· < 0x80) = decide (c.toNat < 0x80) := by
  by_cases ascii : c.toNat < 0x80
  · have code : c.val.toNat = c.toNat := rfl
    have small : UInt8.ofNat c.toNat < 0x80 := by
      rw [UInt8.lt_iff_toNat_lt, UInt8.toNat_ofNat']
      exact Nat.lt_of_le_of_lt (Nat.mod_le _ _) ascii
    rw [String.utf8EncodeChar, code, if_pos (by omega)]
    simp [small, ascii]
  · rw [decide_eq_false ascii, List.all_eq_false]
    have nonempty : String.utf8EncodeChar c ≠ [] := String.utf8EncodeChar_ne_nil
    obtain ⟨b, mem⟩ := List.exists_mem_of_ne_nil _ nonempty
    have high := le_of_mem_encodeChar (Nat.not_lt.mp ascii) mem
    refine ⟨b, mem, ?_⟩
    rw [decide_eq_true_eq, UInt8.lt_iff_toNat_lt]
    exact Nat.not_lt.mpr high

/-- **A text is of ASCII just if all its bytes are.** -/
theorem all_lt_encode (text : List Char) :
    (encode text).all (· < 0x80) = text.all (·.toNat < 0x80) := by
  induction text with
  | nil => rfl
  | cons c text ih =>
      have first : encode (c :: text) = String.utf8EncodeChar c ++ encode text := rfl
      rw [first, List.all_append, all_lt_encodeChar, ih, List.all_cons]

end FleetWatch.Text.Utf8
