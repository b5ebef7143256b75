import FleetWatch.Json.Writer
import FleetWatch.Proofs.Json.Grammar
import Mathlib.Data.List.TakeWhile

/-!
# The grammar of JSON documents

Which texts are documents. The scanner cuts the characters of a document into tokens, one character
at a time; here a document is said to be spelled from its tokens, and the scanner is shown to accept
what is spelled so and nothing else. Together with the grammar of values this tells of every text
whether it is read, and to which value. A text that is written between quotation marks is spelled so
that it reads back.

## Main Definitions

* `Json.Spelled` — the characters between quotation marks, and the text that they stand for
* `Json.Lexed` — the characters of a document, and its tokens
* `Json.IsDocument` — a text that is one JSON document, and its value

## Design Notes

A word goes on as long as there are characters of words, so of two words one behind the other
something else must stand between them; `Json.Lexed.word` says so. Which words are numbers, and
which numbers are too large, is `Json.Number.ofWord?`.
-/

namespace FleetWatch.Json

/-! ### Documents -/

/-- The code unit of four hexadecimal digits. -/
def codeUnit? (a b c d : Char) : Option Nat := do
  let x ← hexDigit? a
  let y ← hexDigit? b
  let z ← hexDigit? c
  let w ← hexDigit? d
  some (((x * 16 + y) * 16 + z) * 16 + w)

/-- **The characters between two quotation marks** and the text that they stand for. Quotation
marks, backslashes and control characters are escaped; surrogates come in pairs. -/
inductive Spelled : List Char → List Char → Prop
  | nil : Spelled [] []
  | plain {c : Char} {body text : List Char} (not_quote : c ≠ '"') (not_backslash : c ≠ '\\')
      (printable : 0x20 ≤ c.toNat) (rest : Spelled body text) : Spelled (c :: body) (c :: text)
  | escaped {c e : Char} {body text : List Char} (short : escaped? c = some e)
      (rest : Spelled body text) : Spelled ('\\' :: c :: body) (e :: text)
  | unit {a b c d : Char} {n : Nat} {body text : List Char} (code : codeUnit? a b c d = some n)
      (single : n < 0xD800 ∨ 0xDFFF < n) (rest : Spelled body text) :
      Spelled ('\\' :: 'u' :: a :: b :: c :: d :: body) (Char.ofNat n :: text)
  | pair {a b c d a' b' c' d' : Char} {n n' : Nat} {body text : List Char}
      (code : codeUnit? a b c d = some n) (leading : 0xD800 ≤ n ∧ n ≤ 0xDBFF)
      (code' : codeUnit? a' b' c' d' = some n') (trailing : 0xDC00 ≤ n' ∧ n' ≤ 0xDFFF)
      (rest : Spelled body text) :
      Spelled
        ('\\' :: 'u' :: a :: b :: c :: d :: '\\' :: 'u' :: a' :: b' :: c' :: d' :: body)
        (Char.ofNat (0x10000 + (n - 0xD800) * 0x400 + (n' - 0xDC00)) :: text)

/-- The token that a single mark is. -/
def mark? : Char → Option Token
  | '[' => some .openArray
  | ']' => some .closeArray
  | '\x7b' => some .openObject
  | '\x7d' => some .closeObject
  | ',' => some .comma
  | ':' => some .colon
  | _ => none

/-- **The characters of a document** and its tokens: marks, quoted texts and words, with white space
between them. -/
inductive Lexed : List Char → List Token → Prop
  | nil : Lexed [] []
  | space {c : Char} {cs : List Char} {tokens : List Token} (space : isSpace c = true)
      (rest : Lexed cs tokens) : Lexed (c :: cs) tokens
  | mark {c : Char} {cs : List Char} {token : Token} {tokens : List Token}
      (mark : mark? c = some token) (rest : Lexed cs tokens) : Lexed (c :: cs) (token :: tokens)
  | text {body cs text : List Char} {tokens : List Token} (spelled : Spelled body text)
      (rest : Lexed cs tokens) :
      Lexed ('"' :: (body ++ '"' :: cs)) (.text (String.ofList text) :: tokens)
  | word {c : Char} {word cs : List Char} {token : Token} {tokens : List Token}
      (chars : ∀ d ∈ c :: word, isWordChar d = true)
      (ends : ∀ d ∈ cs.head?, isWordChar d = false)
      (known : Token.ofWord? (c :: word) = some token) (rest : Lexed cs tokens) :
      Lexed (c :: word ++ cs) (token :: tokens)

/-- **A text that is one JSON document**, with its value: its characters are those of the tokens of
the value, which is not nested more deeply than is allowed. -/
def IsDocument (document : String) (value : Json) : Prop :=
  Lexed document.toList (tokens value) ∧ value.depth ≤ maxDepth

/-! ### Runs of the scanner -/

/-- The tokens at the end of the rest of a document. -/
def Scanner.run? (s : Scanner) (rest : List Char) : Option (List Token) :=
  (rest.foldlM Scanner.step s).bind Scanner.finish?

namespace Scanner

variable {chars cs : List Char} {acc out : List Token}

theorem run?_nil (s : Scanner) : s.run? [] = s.finish? := rfl

theorem run?_cons (s : Scanner) (c : Char) (cs : List Char) :
    s.run? (c :: cs) = (s.step c).bind fun next => next.run? cs := by
  rw [run?, List.foldlM_cons, Option.bind_eq_bind, Option.bind_assoc]
  rfl

theorem run?_append (s : Scanner) (front rest : List Char) :
    s.run? (front ++ rest) = (front.foldlM Scanner.step s).bind fun next => next.run? rest := by
  rw [run?, List.foldlM_append, Option.bind_eq_bind, Option.bind_assoc]
  rfl

/-- One character between tokens, in four cases. -/
theorem between_cases {c : Char} {s : Scanner} (h : between acc c = some s) :
    isSpace c = true ∧ s = ⟨.between, acc⟩ ∨
      c = '"' ∧ s = ⟨.text [], acc⟩ ∨
      (∃ token, mark? c = some token ∧ s = ⟨.between, token :: acc⟩) ∨
      isWordChar c = true ∧ s = ⟨.word [c], acc⟩ := by
  unfold between at h
  have mark : ∀ {d : Char} {token : Token}, mark? d = some token → (c == d) = true →
      some ⟨.between, token :: acc⟩ = some s →
      ∃ token, mark? c = some token ∧ s = ⟨.between, token :: acc⟩ := by
    intro d token isMark same h
    obtain rfl := eq_of_beq same
    exact ⟨token, isMark, (Option.some.inj h).symm⟩
  split at h
  · next space => exact Or.inl ⟨space, (Option.some.inj h).symm⟩
  split at h
  · next quote => exact Or.inr (Or.inl ⟨eq_of_beq quote, (Option.some.inj h).symm⟩)
  split at h
  · next same => exact Or.inr (Or.inr (Or.inl (mark rfl same h)))
  split at h
  · next same => exact Or.inr (Or.inr (Or.inl (mark rfl same h)))
  split at h
  · next same => exact Or.inr (Or.inr (Or.inl (mark rfl same h)))
  split at h
  · next same => exact Or.inr (Or.inr (Or.inl (mark rfl same h)))
  split at h
  · next same => exact Or.inr (Or.inr (Or.inl (mark rfl same h)))
  split at h
  · next same => exact Or.inr (Or.inr (Or.inl (mark rfl same h)))
  split at h
  · next word => exact Or.inr (Or.inr (Or.inr ⟨word, (Option.some.inj h).symm⟩))
  · cases h

theorem between_of_isSpace {c : Char} (h : isSpace c = true) :
    between acc c = some ⟨.between, acc⟩ := by
  rw [between, if_pos h]

theorem between_of_mark? {c : Char} {token : Token} (h : mark? c = some token) :
    between acc c = some ⟨.between, token :: acc⟩ := by
  unfold mark? at h
  split at h <;> cases h <;> rfl

theorem between_of_isWordChar {c : Char} (h : isWordChar c = true) :
    between acc c = some ⟨.word [c], acc⟩ := by
  have ne : ∀ {d : Char}, isWordChar d = false → (c == d) = false := by
    intro d notWord
    refine beq_false_of_ne fun same => ?_
    rw [same, notWord] at h
    cases h
  have notSpace : isSpace c = false := by
    simp [isSpace, ne (show isWordChar ' ' = false from rfl),
      ne (show isWordChar '\t' = false from rfl), ne (show isWordChar '\n' = false from rfl),
      ne (show isWordChar '\r' = false from rfl)]
  simp [between, notSpace, h, ne (show isWordChar '"' = false from rfl),
    ne (show isWordChar '[' = false from rfl), ne (show isWordChar ']' = false from rfl),
    ne (show isWordChar '\x7b' = false from rfl), ne (show isWordChar '\x7d' = false from rfl),
    ne (show isWordChar ',' = false from rfl), ne (show isWordChar ':' = false from rfl)]

/-! ### Words -/

/-- A word goes on with characters of words. -/
theorem run?_word {word : List Char} (h : ∀ c ∈ word, isWordChar c = true) (cs : List Char) :
    run? ⟨.word chars, acc⟩ (word ++ cs) = run? ⟨.word (word.reverse ++ chars), acc⟩ cs := by
  induction word generalizing chars with
  | nil => rfl
  | cons c word ih =>
      have step : Scanner.step ⟨.word chars, acc⟩ c = some ⟨.word (c :: chars), acc⟩ :=
        if_pos (h c List.mem_cons_self)
      rw [List.cons_append, run?_cons, step, Option.bind_some,
        ih fun d mem => h d (List.mem_cons_of_mem c mem), List.reverse_cons, List.append_assoc,
        List.singleton_append]

/-- A word ends in front of any other character, and is then one token. -/
theorem run?_word_end (h : ∀ c ∈ cs.head?, isWordChar c = false) :
    run? ⟨.word chars, acc⟩ cs =
      (Token.ofWord? chars.reverse).bind fun token => run? ⟨.between, token :: acc⟩ cs := by
  cases cs with
  | nil => rfl
  | cons c cs =>
      have step : Scanner.step ⟨.word chars, acc⟩ c =
          (Token.ofWord? chars.reverse).bind fun token => between (token :: acc) c := by
        simp [Scanner.step, h c rfl]
      rw [run?_cons, step, Option.bind_assoc]
      refine congrArg _ (funext fun token => ?_)
      rw [run?_cons, Scanner.step]

/-! ### Quoted texts -/

/-- Any but the last of the four digits of a code unit. -/
theorem run?_digit {leading : Option Nat} {digits : List Nat} (h : digits.length < 3) (c : Char)
    (cs : List Char) :
    run? ⟨.unit chars leading digits, acc⟩ (c :: cs) =
      (hexDigit? c).bind fun digit => run? ⟨.unit chars leading (digit :: digits), acc⟩ cs := by
  rw [run?_cons]
  match digits, h with
  | [], _ | [_], _ | [_, _], _ => simp only [Scanner.step, Option.bind_eq_bind, Option.bind_assoc,
      Option.bind_some]

/-- The four digits of a code unit. -/
theorem run?_unit (leading : Option Nat) (a b c d : Char) (cs : List Char) :
    run? ⟨.unit chars leading [], acc⟩ (a :: b :: c :: d :: cs) =
      (codeUnit? a b c d).bind fun n =>
        (Place.ofUnit? chars leading n).bind fun place => run? ⟨place, acc⟩ cs := by
  simp [run?_digit, run?_cons _ d cs, Scanner.step, codeUnit?, Option.bind_assoc]

/-- A document does not end among the digits of a code unit. -/
theorem exists_of_run?_unit {leading : Option Nat}
    (h : run? ⟨.unit chars leading [], acc⟩ cs = some out) :
    ∃ a b c d rest, cs = a :: b :: c :: d :: rest := by
  match cs with
  | a :: b :: c :: d :: rest => exact ⟨a, b, c, d, rest, rfl⟩
  | [] | [_] | [_, _] | [_, _, _] => simp [run?_digit, run?_nil, Scanner.finish?] at h

/-- A quotation mark ends a text. -/
theorem run?_text_end (cs : List Char) :
    run? ⟨.text chars, acc⟩ ('"' :: cs) =
      run? ⟨.between, .text (String.ofList chars.reverse) :: acc⟩ cs := by
  rw [run?_cons]
  rfl

/-- A character of a text that stands for itself. -/
theorem run?_text_plain {c : Char} (not_quote : c ≠ '"') (not_backslash : c ≠ '\\')
    (printable : 0x20 ≤ c.toNat) (cs : List Char) :
    run? ⟨.text chars, acc⟩ (c :: cs) = run? ⟨.text (c :: chars), acc⟩ cs := by
  have step : Scanner.step ⟨.text chars, acc⟩ c = some ⟨.text (c :: chars), acc⟩ := by
    simp [Scanner.step, not_quote, not_backslash, Nat.not_lt.mpr printable]
  rw [run?_cons, step, Option.bind_some]

/-- A control character cannot stand in a text. -/
theorem run?_text_control {c : Char} (control : c.toNat < 0x20) (cs : List Char) :
    run? ⟨.text chars, acc⟩ (c :: cs) = none := by
  have not_quote : c ≠ '"' := by
    rintro rfl
    exact absurd control (by decide)
  have not_backslash : c ≠ '\\' := by
    rintro rfl
    exact absurd control (by decide)
  have step : Scanner.step ⟨.text chars, acc⟩ c = none := by
    simp [Scanner.step, not_quote, not_backslash, control]
  rw [run?_cons, step, Option.bind_none]

/-- The letter of a code unit after a backslash. -/
theorem run?_text_unit (cs : List Char) :
    run? ⟨.text chars, acc⟩ ('\\' :: 'u' :: cs) = run? ⟨.unit chars none [], acc⟩ cs := by
  rw [run?_cons]
  exact run?_cons _ _ _

/-- Any other letter after a backslash. -/
theorem run?_text_escape {c : Char} (h : c ≠ 'u') (cs : List Char) :
    run? ⟨.text chars, acc⟩ ('\\' :: c :: cs) =
      (escaped? c).bind fun e => run? ⟨.text (e :: chars), acc⟩ cs := by
  have step : Scanner.step ⟨.escape chars, acc⟩ c =
      (escaped? c).map fun e => ⟨.text (e :: chars), acc⟩ := by
    simp [Scanner.step, h]
  have first : run? ⟨.text chars, acc⟩ ('\\' :: c :: cs) =
      run? ⟨.escape chars, acc⟩ (c :: cs) := by
    rw [run?_cons]
    rfl
  rw [first, run?_cons, step, Option.bind_map]
  rfl

/-- Behind a leading surrogate there must be another code unit. -/
theorem run?_surrogate (leading : Nat) (cs : List Char) :
    run? ⟨.surrogate chars leading, acc⟩ ('\\' :: 'u' :: cs) =
      run? ⟨.unit chars (some leading) [], acc⟩ cs := by
  rw [run?_cons]
  exact run?_cons _ _ _

/-- Behind a leading surrogate there can be nothing else. -/
theorem exists_of_run?_surrogate {leading : Nat}
    (h : run? ⟨.surrogate chars leading, acc⟩ cs = some out) :
    ∃ rest, cs = '\\' :: 'u' :: rest := by
  obtain _ | ⟨c, rest⟩ := cs
  · cases h
  have backslash : c = '\\' := by
    by_contra ne
    simp [run?_cons, Scanner.step, ne] at h
  subst backslash
  obtain _ | ⟨d, rest⟩ := rest
  · cases h
  have letter : d = 'u' := by
    by_contra ne
    simp [run?_cons, Scanner.step, ne] at h
  subst letter
  exact ⟨rest, rfl⟩

/-- A spelled text is read up to the quotation mark behind it. -/
theorem run?_of_spelled {body text : List Char} (h : Spelled body text) (cs : List Char) :
    run? ⟨.text chars, acc⟩ (body ++ '"' :: cs) =
      run? ⟨.between, .text (String.ofList (chars.reverse ++ text)) :: acc⟩ cs := by
  induction h generalizing chars with
  | nil => rw [List.nil_append, run?_text_end, List.append_nil]
  | plain not_quote not_backslash printable rest ih =>
      rw [List.cons_append, run?_text_plain not_quote not_backslash printable, ih,
        List.reverse_cons, List.append_assoc, List.singleton_append]
  | @escaped c e body text short rest ih =>
      have ne : c ≠ 'u' := by
        rintro rfl
        cases short
      rw [List.cons_append, List.cons_append, run?_text_escape ne, short, Option.bind_some, ih,
        List.reverse_cons, List.append_assoc, List.singleton_append]
  | @unit a b c d n body text code single rest ih =>
      have place : Place.ofUnit? chars none n = some (.text (Char.ofNat n :: chars)) := by
        unfold Place.ofUnit?
        rw [if_neg (by simp; omega), if_neg (by simp; omega)]
      simp only [List.cons_append, run?_text_unit, run?_unit, code, place, Option.bind_some, ih,
        List.reverse_cons, List.append_assoc, List.nil_append]
  | @pair a b c d a' b' c' d' n n' body text code leading code' trailing rest ih =>
      have place : Place.ofUnit? chars none n = some (.surrogate chars n) :=
        if_pos (by simpa using leading)
      have place' : Place.ofUnit? chars (some n) n' =
          some (.text (Char.ofNat (0x10000 + (n - 0xD800) * 0x400 + (n' - 0xDC00)) :: chars)) :=
        if_pos (by simpa using trailing)
      simp only [List.cons_append, run?_text_unit, run?_unit, code, place, run?_surrogate, code',
        place', Option.bind_some, ih, List.reverse_cons, List.append_assoc, List.nil_append]

/-- The places after a code unit that stands alone or first. -/
theorem ofUnit?_none_cases {n : Nat} {place : Place}
    (h : Place.ofUnit? chars none n = some place) :
    (0xD800 ≤ n ∧ n ≤ 0xDBFF) ∧ place = .surrogate chars n ∨
      (n < 0xD800 ∨ 0xDFFF < n) ∧ place = .text (Char.ofNat n :: chars) := by
  simp only [Place.ofUnit?, Bool.and_eq_true, decide_eq_true_eq] at h
  split at h
  · next leading => exact Or.inl ⟨leading, (Option.some.inj h).symm⟩
  split at h
  · cases h
  · exact Or.inr ⟨by omega, (Option.some.inj h).symm⟩

/-- The place after the second code unit of a pair. -/
theorem of_ofUnit?_some {n n' : Nat} {place : Place}
    (h : Place.ofUnit? chars (some n) n' = some place) :
    (0xDC00 ≤ n' ∧ n' ≤ 0xDFFF) ∧
      place = .text (Char.ofNat (0x10000 + (n - 0xD800) * 0x400 + (n' - 0xDC00)) :: chars) := by
  simp only [Place.ofUnit?, Bool.and_eq_true, decide_eq_true_eq] at h
  split at h
  · next trailing => exact ⟨trailing, (Option.some.inj h).symm⟩
  · cases h

/-- An escape that is read is one of those that can be spelled, and stands for one character. -/
theorem exists_of_run?_escape (h : run? ⟨.text chars, acc⟩ ('\\' :: cs) = some out) :
    ∃ front rest e, cs = front ++ rest ∧
      (∀ body text, Spelled body text → Spelled ('\\' :: front ++ body) (e :: text)) ∧
      run? ⟨.text (e :: chars), acc⟩ rest = some out := by
  obtain _ | ⟨letter, rest⟩ := cs
  · cases h
  by_cases unit : letter = 'u'
  · subst unit
    rw [run?_text_unit] at h
    obtain ⟨x, y, z, w, rest, rfl⟩ := exists_of_run?_unit h
    simp only [run?_unit, Option.bind_eq_some_iff] at h
    obtain ⟨n, code, place, atPlace, h⟩ := h
    obtain ⟨leading, rfl⟩ | ⟨single, rfl⟩ := ofUnit?_none_cases atPlace
    · -- A leading surrogate: its partner must follow.
      obtain ⟨rest, rfl⟩ := exists_of_run?_surrogate h
      rw [run?_surrogate] at h
      obtain ⟨x', y', z', w', rest, rfl⟩ := exists_of_run?_unit h
      simp only [run?_unit, Option.bind_eq_some_iff] at h
      obtain ⟨n', code', place', atPlace', h⟩ := h
      obtain ⟨trailing, rfl⟩ := of_ofUnit?_some atPlace'
      exact ⟨['u', x, y, z, w, '\\', 'u', x', y', z', w'], rest, _, rfl,
        fun _ _ => .pair code leading code' trailing, h⟩
    · exact ⟨['u', x, y, z, w], rest, _, rfl, fun _ _ => .unit code single, h⟩
  · rw [run?_text_escape unit, Option.bind_eq_some_iff] at h
    obtain ⟨e, short, h⟩ := h
    exact ⟨[letter], rest, e, rfl, fun _ _ => .escaped short, h⟩

/-- A text that is read is spelled up to a quotation mark. -/
theorem exists_of_run?_text (h : run? ⟨.text chars, acc⟩ cs = some out) :
    ∃ body text rest, cs = body ++ '"' :: rest ∧ Spelled body text ∧
      run? ⟨.between, .text (String.ofList (chars.reverse ++ text)) :: acc⟩ rest = some out := by
  -- An escape takes up to twelve characters, so the induction is on the length.
  induction same : cs.length using Nat.strongRecOn generalizing cs chars with
  | ind length ih =>
      -- One character of the text, spelled by the front of what is left.
      have extend : ∀ {front rest : List Char} {e : Char}, cs = front ++ rest → front ≠ [] →
          (∀ body text, Spelled body text → Spelled (front ++ body) (e :: text)) →
          run? ⟨.text (e :: chars), acc⟩ rest = some out →
          ∃ body text rest, cs = body ++ '"' :: rest ∧ Spelled body text ∧
            run? ⟨.between, .text (String.ofList (chars.reverse ++ text)) :: acc⟩ rest =
              some out := by
        intro front rest e eq ne spell run
        have shorter : rest.length < length := by
          have := List.length_pos_of_ne_nil ne
          rw [← same, eq, List.length_append]
          omega
        obtain ⟨body, text, rest, rfl, spelled, run⟩ := ih rest.length shorter run rfl
        refine ⟨front ++ body, e :: text, rest, by rw [eq, List.append_assoc],
          spell body text spelled, ?_⟩
        rwa [List.reverse_cons, List.append_assoc, List.singleton_append] at run
      obtain _ | ⟨c, rest⟩ := cs
      · cases h
      by_cases quote : c = '"'
      · subst quote
        rw [run?_text_end] at h
        exact ⟨[], [], rest, rfl, .nil, by rwa [List.append_nil]⟩
      by_cases backslash : c = '\\'
      · subst backslash
        obtain ⟨front, rest, e, rfl, spell, h⟩ := exists_of_run?_escape h
        exact extend (show _ = '\\' :: front ++ rest from rfl) (List.cons_ne_nil _ _) spell h
      · have printable : 0x20 ≤ c.toNat := by
          by_contra control
          rw [run?_text_control (Nat.not_le.mp control)] at h
          cases h
        rw [run?_text_plain quote backslash printable] at h
        exact extend List.singleton_append.symm (List.cons_ne_nil _ _)
          (fun _ _ => .plain quote backslash printable) h

/-! ### Documents and their tokens -/

/-- What is lexed is scanned. -/
theorem run?_of_lexed {tokens : List Token} (h : Lexed cs tokens) :
    run? ⟨.between, acc⟩ cs = some (acc.reverse ++ tokens) := by
  induction h generalizing acc with
  | nil => simp [run?_nil, Scanner.finish?]
  | space space rest ih =>
      rw [run?_cons, Scanner.step, between_of_isSpace space, Option.bind_some, ih]
  | mark mark rest ih =>
      rw [run?_cons, Scanner.step, between_of_mark? mark, Option.bind_some, ih,
        List.reverse_cons, List.append_assoc, List.singleton_append]
  | text spelled rest ih =>
      have quote : Scanner.step ⟨.between, acc⟩ '"' = some ⟨.text [], acc⟩ := rfl
      rw [run?_cons, quote, Option.bind_some, run?_of_spelled spelled, ih, List.reverse_nil,
        List.nil_append, List.reverse_cons, List.append_assoc, List.singleton_append]
  | word chars ends known rest ih =>
      have first := chars _ List.mem_cons_self
      rw [List.cons_append, run?_cons, Scanner.step, between_of_isWordChar first,
        Option.bind_some, run?_word fun d mem => chars d (List.mem_cons_of_mem _ mem),
        run?_word_end ends, List.reverse_append, List.reverse_reverse, List.reverse_singleton,
        List.singleton_append, known, Option.bind_some, ih, List.reverse_cons, List.append_assoc,
        List.singleton_append]

/-- A word that is read goes as far as there are characters of words, and is one token. -/
theorem exists_of_run?_word {c : Char} (first : isWordChar c = true)
    (h : run? ⟨.word [c], acc⟩ cs = some out) :
    ∃ word rest token, cs = word ++ rest ∧ (∀ d ∈ c :: word, isWordChar d = true) ∧
      (∀ d ∈ rest.head?, isWordChar d = false) ∧ Token.ofWord? (c :: word) = some token ∧
      run? ⟨.between, token :: acc⟩ rest = some out := by
  have split := List.takeWhile_append_dropWhile (p := isWordChar) (l := cs)
  have chars : ∀ d ∈ cs.takeWhile isWordChar, isWordChar d = true :=
    fun d mem => List.mem_takeWhile_imp mem
  have ends : ∀ d ∈ (cs.dropWhile isWordChar).head?, isWordChar d = false := by
    intro d head
    simpa [Option.mem_def.mp head] using List.head?_dropWhile_not isWordChar cs
  rw [← split, run?_word chars, run?_word_end ends, Option.bind_eq_some_iff] at h
  obtain ⟨token, known, h⟩ := h
  rw [List.reverse_append, List.reverse_reverse, List.reverse_singleton, List.singleton_append]
    at known
  refine ⟨_, _, token, split.symm, fun d mem => ?_, ends, known, h⟩
  obtain rfl | mem := List.mem_cons.mp mem
  · exact first
  · exact chars d mem

/-- What is scanned is lexed. -/
theorem exists_lexed_of_run? (h : run? ⟨.between, acc⟩ cs = some out) :
    ∃ tokens, Lexed cs tokens ∧ out = acc.reverse ++ tokens := by
  -- A token takes any number of characters, so the induction is on the length.
  induction same : cs.length using Nat.strongRecOn generalizing cs acc with
  | ind length ih =>
      have token : ∀ {rest : List Char} {token : Token}, rest.length < cs.length →
          (∀ {tokens}, Lexed rest tokens → Lexed cs (token :: tokens)) →
          run? ⟨.between, token :: acc⟩ rest = some out →
          ∃ tokens, Lexed cs tokens ∧ out = acc.reverse ++ tokens := by
        intro rest token shorter lex run
        obtain ⟨tokens, lexed, rfl⟩ := ih rest.length (same ▸ shorter) run rfl
        exact ⟨token :: tokens, lex lexed, by simp⟩
      obtain _ | ⟨c, rest⟩ := cs
      · rw [run?_nil] at h
        exact ⟨[], .nil, by simpa [Scanner.finish?] using h.symm⟩
      have shorter : rest.length < (c :: rest).length := Nat.lt_succ_self _
      rw [run?_cons, Scanner.step, Option.bind_eq_some_iff] at h
      obtain ⟨next, step, h⟩ := h
      obtain ⟨space, rfl⟩ | ⟨rfl, rfl⟩ | ⟨mark, isMark, rfl⟩ | ⟨first, rfl⟩ := between_cases step
      · obtain ⟨tokens, lexed, rfl⟩ := ih rest.length (same ▸ shorter) h rfl
        exact ⟨tokens, .space space lexed, rfl⟩
      · obtain ⟨body, text, rest, rfl, spelled, h⟩ := exists_of_run?_text h
        refine token ?_ (.text spelled) h
        simp only [List.length_cons, List.length_append]
        omega
      · exact token shorter (.mark isMark) h
      · obtain ⟨word, rest, _, rfl, chars, ends, known, h⟩ := exists_of_run?_word first h
        refine token ?_ (.word chars ends known) h
        simp only [List.length_cons, List.length_append]
        omega

end Scanner

/-- **The tokens of a document** are those from which it is spelled. -/
theorem Token.scan?_eq_some_iff {document : List Char} {tokens : List Token} :
    Token.scan? document = some tokens ↔ Lexed document tokens := by
  constructor
  · intro scan
    obtain ⟨tokens, lexed, rfl⟩ := Scanner.exists_lexed_of_run? scan
    exact lexed
  · intro lexed
    exact Scanner.run?_of_lexed lexed

/-- **Reading is sound and complete.** A text is read exactly when it is one JSON document, and the
value that is read is the value of the document. -/
theorem read?_eq_some_iff {document : String} {value : Json} :
    read? document = some value ↔ IsDocument document value := by
  simp only [read?, Option.bind_eq_bind, Option.bind_eq_some_iff, Token.scan?_eq_some_iff,
    ofTokens?_eq_some_iff]
  constructor
  · rintro ⟨_, lexed, rfl, depth⟩
    exact ⟨lexed, depth⟩
  · rintro ⟨lexed, depth⟩
    exact ⟨_, lexed, rfl, depth⟩

/-- A text is the document of one value at most. -/
theorem IsDocument.unique {document : String} {value value' : Json}
    (h : IsDocument document value) (h' : IsDocument document value') : value = value' := by
  rw [← read?_eq_some_iff] at h h'
  exact Option.some.inj (h.symm.trans h')

/-! ### Texts as they are written -/

/-- The code unit that is written for a control character. -/
theorem codeUnit?_of_lt {n : Nat} (h : n < 0x20) :
    codeUnit? '0' '0' (Nat.digitChar (n / 16)) (Nat.digitChar (n % 16)) = some n := by
  have all : ∀ n : Fin 0x20,
      codeUnit? '0' '0' (Nat.digitChar (n.val / 16)) (Nat.digitChar (n.val % 16)) = some n.val := by
    decide
  exact all ⟨n, h⟩

/-- A character that is written between quotation marks stands for itself. -/
theorem spelled_escape (c : Char) {body text : List Char} (rest : Spelled body text) :
    Spelled (escape c ++ body) (c :: text) := by
  have short : ∀ {letter : Char}, escaped? letter = some c →
      Spelled (['\\', letter] ++ body) (c :: text) := fun isShort => .escaped isShort rest
  unfold escape
  split
  · next same =>
    obtain rfl := eq_of_beq same
    exact short rfl
  split
  · next same =>
    obtain rfl := eq_of_beq same
    exact short rfl
  split
  · next same =>
    obtain rfl := eq_of_beq same
    exact short rfl
  split
  · next same =>
    obtain rfl := eq_of_beq same
    exact short rfl
  split
  · next same =>
    obtain rfl := eq_of_beq same
    exact short rfl
  split
  · next same =>
    obtain rfl := eq_of_beq same
    exact short rfl
  split
  · next same =>
    obtain rfl := eq_of_beq same
    exact short rfl
  split
  · next control =>
    have written := Spelled.unit (codeUnit?_of_lt control) (Or.inl (by omega)) rest
    rwa [Char.ofNat_toNat] at written
  · next not_quote not_backslash _ _ _ _ _ printable =>
    refine .plain (fun same => ?_) (fun same => ?_) (Nat.not_lt.mp printable) rest
    · exact not_quote (beq_iff_eq.mpr same)
    · exact not_backslash (beq_iff_eq.mpr same)

theorem spelled_flatMap_escape (text : List Char) : Spelled (text.flatMap escape) text := by
  induction text with
  | nil => exact .nil
  | cons c text ih => exact spelled_escape c ih

/-- **A text that is written between quotation marks** is read as that text. -/
theorem Lexed.quoted {cs : List Char} {tokens : List Token} (text : String)
    (rest : Lexed cs tokens) : Lexed (Json.quoted text ++ cs) (.text text :: tokens) := by
  have written := Lexed.text (spelled_flatMap_escape text.toList) rest
  rwa [String.ofList_toList, ← List.singleton_append (x := '"') (l := cs), ← List.append_assoc]
    at written

/-- The digits of a code unit are no line ends. -/
theorem newline_notMem_of_codeUnit? {a b c d : Char} {n : Nat} (h : codeUnit? a b c d = some n) :
    '\n' ∉ [a, b, c, d] := by
  have none : hexDigit? '\n' = none := by decide
  simp only [codeUnit?, Option.bind_eq_bind, Option.bind_eq_some_iff] at h
  obtain ⟨x, hx, y, hy, z, hz, w, hw, -⟩ := h
  have ne : ∀ {digit : Char} {value : Nat}, hexDigit? digit = some value → '\n' ≠ digit := by
    rintro digit value isDigit rfl
    rw [none] at isDigit
    cases isDigit
  simp [ne hx, ne hy, ne hz, ne hw]

/-- There is no line end between the quotation marks of a text. -/
theorem Spelled.newline_notMem {body text : List Char} (h : Spelled body text) : '\n' ∉ body := by
  induction h with
  | nil => exact List.not_mem_nil
  | plain _ _ printable _ ih =>
      refine List.mem_cons.not.mpr (not_or.mpr ⟨?_, ih⟩)
      rintro rfl
      exact absurd printable (by decide)
  | @escaped c e body text short _ ih =>
      have ne : '\n' ≠ c := by
        rintro rfl
        cases short
      simp [ne, ih]
  | unit code _ _ ih =>
      have digits := newline_notMem_of_codeUnit? code
      simp only [List.mem_cons, List.not_mem_nil, or_false] at digits ⊢
      simp [digits, ih]
  | pair code _ code' _ _ ih =>
      have digits := newline_notMem_of_codeUnit? code
      have digits' := newline_notMem_of_codeUnit? code'
      simp only [List.mem_cons, List.not_mem_nil, or_false] at digits digits' ⊢
      simp only [not_or] at digits digits'
      simp [digits, digits', ih]

/-- There is no line end in a text that is written between quotation marks. -/
theorem newline_notMem_quoted (text : String) : '\n' ∉ Json.quoted text := by
  have body := (spelled_flatMap_escape text.toList).newline_notMem
  simpa [Json.quoted] using body

end FleetWatch.Json
