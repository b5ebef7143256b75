import FleetWatch.Proofs.Text.Encoding
import Mathlib.Data.List.Induction

/-!
# Well-formed bytes

Strict reading accepts the bytes of a text and no others, so a text has one form in bytes. That
bytes of a text are accepted is a matter of one run of the decoder; this module has the other
direction, that no accepted bytes are left over.

## Main Definitions

* `Opens` — bytes that begin the form of a character, whatever completes them
* `Decoder.Holds` — a decoder that has taken the bytes of a text and of a sequence that has begun

## Design Notes

What a sequence that has begun will stand for is known only at its last byte. So `Opens` speaks of
all bytes that can still come, one step of the decoder at a time; each row of the table of first
bytes has to be looked at once (`opens_of_lead`), and a step in the middle is an instance.
-/

namespace FleetWatch.Text.Utf8

/-! ### Characters of some bytes -/

section Characters

variable {v : Nat} {a b c d : UInt8}

/-- The character of a valid code point has that code point. -/
theorem val_ofNat (valid : v.isValidChar) : (Char.ofNat v).val.toNat = v := by
  rw [Char.ofNat, dif_pos valid]
  rfl

theorem ofNat_eq_of_toNat {n : Nat} (h : b.toNat = n) : UInt8.ofNat n = b := by
  rw [← h, UInt8.ofNat_toNat]

theorem encodeChar_one (h : b.toNat < 0x80) : String.utf8EncodeChar (Char.ofNat b.toNat) = [b] := by
  have code := val_ofNat (v := b.toNat) (Or.inl (by omega))
  rw [String.utf8EncodeChar, code, if_pos (by omega), UInt8.ofNat_toNat]

theorem encodeChar_two (low : 0x80 ≤ v) (ha : a.toNat = v / 64 + 192)
    (hb : b.toNat = v % 64 + 128) (high : v < 0x800) :
    String.utf8EncodeChar (Char.ofNat v) = [a, b] := by
  have first : v / 64 % 32 = v / 64 := by omega
  rw [String.utf8EncodeChar, val_ofNat (Or.inl (by omega)), if_neg (by omega), if_pos (by omega),
    first, ofNat_eq_of_toNat ha, ofNat_eq_of_toNat hb]

theorem encodeChar_three (low : 0x800 ≤ v) (ha : a.toNat = v / 4096 + 224)
    (hb : b.toNat = v / 64 % 64 + 128) (hc : c.toNat = v % 64 + 128)
    (high : v < 0xD800 ∨ 0xDFFF < v ∧ v < 0x10000) :
    String.utf8EncodeChar (Char.ofNat v) = [a, b, c] := by
  have valid : v.isValidChar := high.imp_right fun h => ⟨h.1, by omega⟩
  have first : v / 4096 % 16 = v / 4096 := by omega
  rw [String.utf8EncodeChar, val_ofNat valid, if_neg (by omega), if_neg (by omega),
    if_pos (by omega), first, ofNat_eq_of_toNat ha, ofNat_eq_of_toNat hb, ofNat_eq_of_toNat hc]

theorem encodeChar_four (low : 0x10000 ≤ v) (ha : a.toNat = v / 262144 + 240)
    (hb : b.toNat = v / 4096 % 64 + 128) (hc : c.toNat = v / 64 % 64 + 128)
    (hd : d.toNat = v % 64 + 128) (high : v < 0x110000) :
    String.utf8EncodeChar (Char.ofNat v) = [a, b, c, d] := by
  have first : v / 262144 % 8 = v / 262144 := by omega
  rw [String.utf8EncodeChar, val_ofNat (Or.inr ⟨by omega, high⟩), if_neg (by omega),
    if_neg (by omega), if_neg (by omega), first, ofNat_eq_of_toNat ha, ofNat_eq_of_toNat hb,
    ofNat_eq_of_toNat hc, ofNat_eq_of_toNat hd]

end Characters

/-! ### Sequences that have begun -/

/-- **Bytes that begin the form of a character.** So many are missing, the next of them lies in a
range, and whichever they are, the bytes together are those of the character of the payload. -/
def Opens (held : List UInt8) : Nat → UInt8 → UInt8 → Nat → Prop
  | 0, _, _, _ => False
  | 1, low, high, payload => ∀ b : UInt8, low ≤ b → b ≤ high →
      String.utf8EncodeChar (Char.ofNat (payload * 64 + b.toNat % 64)) = held ++ [b]
  | missing + 2, low, high, payload => ∀ b : UInt8, low ≤ b → b ≤ high →
      Opens (held ++ [b]) (missing + 1) 0x80 0xBF (payload * 64 + b.toNat % 64)

/-- Two bytes, of which the first has been taken. -/
theorem opens_two {b : UInt8} (low : 0xC2 ≤ b.toNat) (high : b.toNat < 0xE0) :
    Opens [b] 1 0x80 0xBF (b.toNat % 32) := by
  intro c above below
  have bounds : 0x80 ≤ c.toNat ∧ c.toNat ≤ 0xBF := ⟨above, below⟩
  exact encodeChar_two (by omega) (by omega) (by omega) (by omega)

/-- Three bytes, of which the first has been taken. The range of the second keeps out overlong
forms and surrogates. -/
theorem opens_three {b least greatest : UInt8} (row : 0xE0 ≤ b.toNat ∧ b.toNat < 0xF0)
    (range : 0x80 ≤ least.toNat ∧ greatest.toNat ≤ 0xBF)
    (overlong : b.toNat = 0xE0 → 0xA0 ≤ least.toNat)
    (surrogate : b.toNat = 0xED → greatest.toNat ≤ 0x9F) :
    Opens [b] 2 least greatest (b.toNat % 16) := by
  intro c above below d above' below'
  rw [UInt8.le_iff_toNat_le] at above below
  have bounds : 0x80 ≤ d.toNat ∧ d.toNat ≤ 0xBF := ⟨above', below'⟩
  exact encodeChar_three (by omega) (by omega) (by omega) (by omega) (by omega)

/-- Four bytes, of which the first has been taken. The range of the second keeps out overlong forms
and what lies beyond the last code point. -/
theorem opens_four {b least greatest : UInt8} (row : 0xF0 ≤ b.toNat ∧ b.toNat < 0xF5)
    (range : 0x80 ≤ least.toNat ∧ greatest.toNat ≤ 0xBF)
    (overlong : b.toNat = 0xF0 → 0x90 ≤ least.toNat)
    (beyond : b.toNat = 0xF4 → greatest.toNat ≤ 0x8F) :
    Opens [b] 3 least greatest (b.toNat % 8) := by
  intro c above below d above' below' e above'' below''
  rw [UInt8.le_iff_toNat_le] at above below
  have bounds : 0x80 ≤ d.toNat ∧ d.toNat ≤ 0xBF := ⟨above', below'⟩
  have bounds' : 0x80 ≤ e.toNat ∧ e.toNat ≤ 0xBF := ⟨above'', below''⟩
  exact encodeChar_four (by omega) (by omega) (by omega) (by omega) (by omega) (by omega)

/-- A first byte that announces more begins the form of a character. -/
theorem opens_of_lead {b : UInt8} {p : Pending} (h : Lead.of b = .longer p) :
    Opens [b] p.missing p.low p.high p.payload := by
  simp only [Lead.of, UInt8.lt_iff_toNat_lt] at h
  -- One case for each row of the table of first bytes.
  split at h
  · cases h
  split at h
  · cases h
  next notSingle notMalformed =>
  have low : 0xC2 ≤ b.toNat := Nat.not_lt.mp notMalformed
  split at h
  · next two =>
    cases h
    exact opens_two low two
  next notTwo =>
  have three : 0xE0 ≤ b.toNat := Nat.not_lt.mp notTwo
  split at h
  · next same =>
    subst same
    cases h
    exact opens_three (by decide) (by decide) (by decide) (by decide)
  next ne =>
  split at h
  · next same =>
    subst same
    cases h
    exact opens_three (by decide) (by decide) (by decide) (by decide)
  next ne' =>
  have notE0 : b.toNat ≠ 0xE0 := fun same => ne (UInt8.toNat_inj.mp same)
  have notED : b.toNat ≠ 0xED := fun same => ne' (UInt8.toNat_inj.mp same)
  split at h
  · next less =>
    cases h
    exact opens_three ⟨three, less⟩ ⟨Nat.le_refl 0x80, Nat.le_refl 0xBF⟩ (absurd · notE0)
      (absurd · notED)
  next notThree =>
  have four : 0xF0 ≤ b.toNat := Nat.not_lt.mp notThree
  split at h
  · next same =>
    subst same
    cases h
    exact opens_four (by decide) (by decide) (by decide) (by decide)
  next ne'' =>
  have notF0 : b.toNat ≠ 0xF0 := fun same => ne'' (UInt8.toNat_inj.mp same)
  split at h
  · next less =>
    have below : b.toNat < 0xF4 := less
    cases h
    exact opens_four ⟨four, by omega⟩ ⟨Nat.le_refl 0x80, Nat.le_refl 0xBF⟩ (absurd · notF0)
      (by omega)
  split at h
  · next same =>
    subst same
    cases h
    exact opens_four (by decide) (by decide) (by decide) (by decide)
  · cases h

/-! ### The bytes of a decoder -/

/-- What a decoder holds back begins the form of a character. -/
def Held (held : List UInt8) : Option Pending → Prop
  | none => held = []
  | some p => Opens held p.missing p.low p.high p.payload

/-- **A decoder that has taken the bytes of a text**, and behind them those of a sequence that has
begun. -/
def Decoder.Holds (d : Decoder) (bytes : List UInt8) : Prop :=
  ∃ text held, d.chunks = (text.map some).reverse ∧ Held held d.pending ∧
    bytes = encode text ++ held

theorem Decoder.holds_start : Decoder.start.Holds [] :=
  ⟨[], [], rfl, rfl, rfl⟩

theorem encode_concat (text : List Char) (c : Char) :
    encode (text ++ [c]) = encode text ++ String.utf8EncodeChar c := by
  simp [encode]

/-- One more character. -/
theorem Decoder.holds_character {chunks : List (Option Char)} {text : List Char}
    {bytes held : List UInt8} {c : Char} (chunks_eq : chunks = (text.map some).reverse)
    (bytes_eq : bytes = encode text ++ held) (b : UInt8)
    (form : String.utf8EncodeChar c = held ++ [b]) :
    Decoder.Holds ⟨none, some c :: chunks⟩ (bytes ++ [b]) := by
  refine ⟨text ++ [c], [], ?_, rfl, ?_⟩
  · simp [chunks_eq]
  · rw [encode_concat, form, bytes_eq, List.append_nil, List.append_assoc]

/-- Chunks that have been read stay. -/
theorem Decoder.suffix_lead (chunks : List (Option Char)) (b : UInt8) :
    chunks <:+ (Decoder.lead chunks b).chunks := by
  unfold Decoder.lead
  split
  · exact List.suffix_cons _ chunks
  · exact List.suffix_refl chunks
  · exact List.suffix_cons _ chunks

theorem Decoder.suffix_step (d : Decoder) (b : UInt8) : d.chunks <:+ (d.step b).chunks := by
  unfold Decoder.step
  split
  · exact suffix_lead d.chunks b
  · split
    · dsimp only
      split
      · exact List.suffix_cons _ d.chunks
      · exact List.suffix_refl d.chunks
    · exact (List.suffix_cons none d.chunks).trans (suffix_lead _ b)

/-- A byte that stands for itself lies below `0x80`. -/
theorem lt_of_lead_eq_single {b : UInt8} (h : Lead.of b = .single) : b.toNat < 0x80 := by
  by_contra notLess
  have notLess' : ¬ b < 0x80 := notLess
  rw [Lead.of, if_neg notLess'] at h
  split_ifs at h

/-- A first byte that is not malformed is a character, or begins one. -/
theorem Decoder.holds_lead {chunks : List (Option Char)} {text : List Char}
    (chunks_eq : chunks = (text.map some).reverse) (b : UInt8)
    (wellFormed : none ∉ (Decoder.lead chunks b).chunks) :
    (Decoder.lead chunks b).Holds (encode text ++ [b]) := by
  unfold Decoder.lead at wellFormed ⊢
  split
  · next single =>
    have form := encodeChar_one (lt_of_lead_eq_single single)
    exact holds_character chunks_eq (List.append_nil _).symm b form
  · next p longer => exact ⟨text, [b], chunks_eq, opens_of_lead longer, rfl⟩
  · next malformed =>
    rw [malformed] at wellFormed
    exact absurd List.mem_cons_self wellFormed

/-- **A step that meets nothing malformed** takes its byte to the others. -/
theorem Decoder.Holds.step {d : Decoder} {bytes : List UInt8} (h : d.Holds bytes) (b : UInt8)
    (wellFormed : none ∉ (d.step b).chunks) : (d.step b).Holds (bytes ++ [b]) := by
  obtain ⟨pending, chunks⟩ := d
  obtain ⟨text, held, chunks_eq, opened, bytes_eq⟩ := h
  cases pending with
  | none =>
      obtain rfl : held = [] := opened
      rw [bytes_eq, List.append_nil]
      exact holds_lead chunks_eq b wellFormed
  | some p =>
      obtain ⟨missing, low, high, payload⟩ := p
      simp only [Decoder.step] at wellFormed ⊢
      by_cases range : (low ≤ b && b ≤ high) = true
      · obtain ⟨above, below⟩ := Bool.and_eq_true_iff.mp range
        rw [decide_eq_true_eq] at above below
        rw [if_pos range]
        -- A sequence that has begun misses a byte at least: its last one, or one in the middle.
        rcases missing with _ | _ | missing
        · exact opened.elim
        · exact holds_character chunks_eq bytes_eq b (opened b above below)
        · rw [if_neg (by omega)]
          refine ⟨text, held ++ [b], chunks_eq, opened b above below, ?_⟩
          rw [bytes_eq, List.append_assoc]
      · -- What has begun is cut off here, and stays as a malformed part.
        rw [if_neg range] at wellFormed
        exact absurd ((suffix_lead (none :: chunks) b).mem List.mem_cons_self) wellFormed

/-- A decoder that has met nothing malformed has taken all bytes. -/
theorem Decoder.holds_foldl {bytes : List UInt8}
    (wellFormed : none ∉ (bytes.foldl Decoder.step .start).chunks) :
    (bytes.foldl Decoder.step .start).Holds bytes := by
  induction bytes using List.reverseRecOn with
  | nil => exact holds_start
  | append_singleton bytes b ih =>
      rw [List.foldl_append, List.foldl_cons, List.foldl_nil] at wellFormed ⊢
      refine (ih ?_).step b wellFormed
      intro malformed
      exact wellFormed ((suffix_step _ b).mem malformed)

/-! ### Strict reading -/

/-- Parts are all characters if none of them is malformed. -/
theorem mapM_id_eq_some_iff {parts : List (Option Char)} {text : List Char} :
    parts.mapM id = some text ↔ parts = text.map some := by
  induction parts generalizing text with
  | nil => cases text <;> simp
  | cons part parts ih =>
      cases part with
      | none => cases text <;> simp
      | some c =>
          rw [List.mapM_cons, id, Option.bind_eq_bind, Option.bind_some, Option.bind_eq_bind,
            Option.bind_eq_some_iff]
          simp only [ih, Option.pure_def, Option.some.injEq]
          constructor
          · rintro ⟨rest, rfl, rfl⟩
            rfl
          · intro same
            obtain ⟨c', rest, rfl, first, others⟩ := List.map_eq_cons_iff.mp same.symm
            obtain rfl := Option.some.inj first
            exact ⟨rest, others.symm, rfl⟩

/-- **Strict reading accepts the bytes of a text**, and no others. -/
theorem decode?_eq_some_iff {bytes : List UInt8} {text : List Char} :
    decode? bytes = some text ↔ bytes = encode text := by
  rw [decode?, mapM_id_eq_some_iff]
  constructor
  · intro read
    rw [chunks, Decoder.finish] at read
    split at read
    · next complete =>
      have wellFormed : none ∉ (bytes.foldl Decoder.step .start).chunks := by
        rw [← List.mem_reverse, read]
        simp
      obtain ⟨text', held, chunks_eq, opened, bytes_eq⟩ := Decoder.holds_foldl wellFormed
      rw [complete] at opened
      obtain rfl : held = [] := opened
      rw [chunks_eq, List.reverse_reverse, List.map_inj_right (fun _ _ => Option.some.inj)] at read
      rw [bytes_eq, List.append_nil, read]
    · -- A sequence that has begun at the end is malformed.
      have malformed : none ∈ text.map some := read ▸ by simp
      simp at malformed
  · rintro rfl
    exact chunks_encode text

end FleetWatch.Text.Utf8
