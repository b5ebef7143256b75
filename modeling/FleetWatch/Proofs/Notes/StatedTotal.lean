import FleetWatch.Notes.Counters
import FleetWatch.Proofs.Notes.Lines
import Mathlib.Data.List.Forall2
import Mathlib.Order.WellFounded

/-!
# The total that notes state

Notes can state how many leads there are, with some fixed words, a gap and a number. The search
looks at the first place of a document where this is done, and at no other. If the number there can
be read, it is the answer. If not, because it is too large or not written in ASCII digits, the
headings of leads are counted, although a number that can be read may be stated further down.

## Main Definitions

* `TotalMarker` — the words, the gap and the digits of a stated total
* `TotalMarker.IsAt` — where a document states a total
* `TotalMarker.Reads` — the number that is stated, if it can be read
* `IsUnstated`, `IsUnstatedBefore` — no total is stated, nowhere or before a place
* `IsFirstReadable` — the first total that can be read

## Design Notes

A place is given by what stands before it, so the order of places is that of their lengths.
-/

namespace FleetWatch.Notes

open Text

/-! ### Markers -/

/-- What may stand between the words and the number. -/
def isGap (c : Char) : Bool :=
  c == ':' || isBlank c

/-- **A stated total**: the words in any letter case, a gap, and digits of any script. -/
structure TotalMarker where
  words : List Char
  gap : List Char
  digits : List Char
  sameWords : List.Forall₂ (fun letter c => sameLetter letter c = true) totalPhrase words
  gap_ne_nil : gap ≠ []
  isGap_of_mem : ∀ c ∈ gap, isGap c = true
  digits_ne_nil : digits ≠ []
  isDigit_of_mem : ∀ c ∈ digits, isDecimalDigit c = true

/-- **Where a document states a total**: behind `place`, and all the digits that stand there are of
its number. -/
def TotalMarker.IsAt (marker : TotalMarker) (document place : List Char) : Prop :=
  ∃ rest, document = place ++ (marker.words ++ (marker.gap ++ (marker.digits ++ rest))) ∧
    ∀ c ∈ rest.head?, isDecimalDigit c = false

/-- **The number that is stated**, if it can be read: it is written in ASCII digits, and has a value
of 64 bits. -/
structure TotalMarker.Reads (marker : TotalMarker) (total : Nat) : Prop where
  ascii : ∀ c ∈ marker.digits, c.isDigit = true
  value : asciiValue marker.digits = total
  lt : total < Nat.pow 2 64

/-- Just the numbers that can be read are read. -/
theorem TotalMarker.readTotal?_eq_some_iff {marker : TotalMarker} {total : Nat} :
    readTotal? marker.digits = some total ↔ marker.Reads total := by
  rw [readTotal?, Option.ite_none_right_eq_some, Bool.and_eq_true_iff, List.all_eq_true,
    decide_eq_true_iff, Option.some_inj]
  constructor
  · rintro ⟨⟨ascii, lt⟩, rfl⟩
    exact ⟨ascii, rfl, lt⟩
  · rintro ⟨ascii, rfl, lt⟩
    exact ⟨⟨ascii, lt⟩, rfl⟩

/-! ### The pattern of a stated total -/

/-- The words are taken off in any letter case. -/
theorem afterPhrase?_eq_some_iff {phrase text rest : List Char} :
    afterPhrase? phrase text = some rest ↔
      ∃ words, text = words ++ rest ∧
        List.Forall₂ (fun letter c => sameLetter letter c = true) phrase words := by
  induction phrase generalizing text with
  | nil => simp [afterPhrase?]
  | cons letter phrase ih =>
      cases text with
      | nil => simp [afterPhrase?, List.forall₂_cons_left_iff]
      | cons c text =>
          rw [afterPhrase?, Option.ite_none_right_eq_some, ih]
          constructor
          · rintro ⟨same, words, rfl, others⟩
            exact ⟨c :: words, rfl, .cons same others⟩
          · rintro ⟨words, split, all⟩
            obtain ⟨d, others, same, rest, rfl⟩ := List.forall₂_cons_left_iff.mp all
            cases split
            exact ⟨same, others, rfl, rest⟩

/-- The code point ranges, both ends included, of what may stand in the gap. -/
def gapRanges : List (Nat × Nat) :=
  [(0x9, 0xD), (0x20, 0x20), (0x3A, 0x3A), (0x85, 0x85), (0xA0, 0xA0), (0x1680, 0x1680),
    (0x2000, 0x200A), (0x2028, 0x2029), (0x202F, 0x202F), (0x205F, 0x205F), (0x3000, 0x3000)]

theorem exists_gapRange {c : Char} (h : isGap c = true) :
    ∃ range ∈ gapRanges, range.1 ≤ c.toNat ∧ c.toNat ≤ range.2 := by
  rcases Bool.or_eq_true_iff.mp h with colon | blank
  · rw [eq_of_beq colon]
    decide
  · simp only [isBlank, Bool.or_eq_true, Bool.and_eq_true, beq_iff_eq, decide_eq_true_eq] at blank
    simp only [gapRanges, List.mem_cons, List.not_mem_nil, or_false, exists_eq_or_imp,
      exists_eq_left]
    omega

/-- What may stand in the gap is no digit of any script. -/
theorem isDecimalDigit_of_isGap {c : Char} (h : isGap c = true) : isDecimalDigit c = false := by
  have apart : ∀ gap ∈ gapRanges, ∀ range ∈ digitRanges, gap.2 < range.1 ∨ range.2 < gap.1 := by
    decide
  obtain ⟨gap, mem, low, high⟩ := exists_gapRange h
  rw [isDecimalDigit, List.any_eq_false]
  intro range ofDigits inside
  have bounds := apart gap mem range ofDigits
  simp only [Bool.and_eq_true, decide_eq_true_eq] at inside
  omega

/-- The gap ends where the digits start. -/
theorem isGap_of_isDecimalDigit {c : Char} (h : isDecimalDigit c = true) : isGap c = false :=
  Bool.eq_false_iff.mpr fun gap => by
    rw [isDecimalDigit_of_isGap gap] at h
    cases h

/-- **The match behind the words**, by the gap and the digits. -/
theorem map_value_statedTotal {text rest : List Char} (lineStart : Bool)
    (phrase : afterPhrase? totalPhrase text = some rest) :
    (statedTotal lineStart text).map Hit.value =
      if rest.takeWhile isGap ≠ [] ∧ (rest.dropWhile isGap).takeWhile isDecimalDigit ≠ [] then
        some ((rest.dropWhile isGap).takeWhile isDecimalDigit)
      else none := by
  have behindGap : rest.drop (rest.takeWhile isGap).length = rest.dropWhile isGap := by
    calc rest.drop (rest.takeWhile isGap).length
        = (rest.takeWhile isGap ++ rest.dropWhile isGap).drop (rest.takeWhile isGap).length := by
          rw [List.takeWhile_append_dropWhile]
      _ = rest.dropWhile isGap := List.drop_left
  have split : statedTotal lineStart text =
      if h : 0 < (rest.takeWhile isGap).length ∧
          0 < ((rest.drop (rest.takeWhile isGap).length).takeWhile isDecimalDigit).length then
        some ⟨totalPhrase.length + (rest.takeWhile isGap).length +
            ((rest.drop (rest.takeWhile isGap).length).takeWhile isDecimalDigit).length,
          (rest.drop (rest.takeWhile isGap).length).takeWhile isDecimalDigit, by omega⟩
      else none := by
    rw [statedTotal, phrase]
    rfl
  rw [split, apply_dite (Option.map Hit.value)]
  simp only [behindGap, List.length_pos_iff]
  rfl

/-- **A match is a stated total**, and its digits are what is of interest. -/
theorem exists_of_statedTotal {lineStart : Bool} {text digits : List Char}
    (h : (statedTotal lineStart text).map Hit.value = some digits) :
    ∃ marker : TotalMarker, marker.IsAt text [] ∧ marker.digits = digits := by
  cases phrase : afterPhrase? totalPhrase text with
  | none =>
      rw [statedTotal, phrase] at h
      cases h
  | some rest =>
      obtain ⟨words, rfl, sameWords⟩ := afterPhrase?_eq_some_iff.mp phrase
      rw [map_value_statedTotal lineStart phrase] at h
      obtain ⟨⟨gap, nonempty⟩, same⟩ := Option.ite_none_right_eq_some.mp h
      cases same
      refine ⟨⟨words, _, _, sameWords, gap, fun c mem => List.mem_takeWhile_imp mem, nonempty,
        fun c mem => List.mem_takeWhile_imp mem⟩,
        ⟨(rest.dropWhile isGap).dropWhile isDecimalDigit, ?_, ?_⟩, rfl⟩
      · rw [List.takeWhile_append_dropWhile, List.takeWhile_append_dropWhile, List.nil_append]
      · intro c first
        have ends := List.head?_dropWhile_not isDecimalDigit (rest.dropWhile isGap)
        rwa [first] at ends

/-- **A stated total is a match.** -/
theorem TotalMarker.IsAt.map_value_statedTotal {marker : TotalMarker} {text : List Char}
    (stated : marker.IsAt text []) (lineStart : Bool) :
    (statedTotal lineStart text).map Hit.value = some marker.digits := by
  obtain ⟨rest, rfl, ends⟩ := stated
  have phrase : afterPhrase? totalPhrase
      ([] ++ (marker.words ++ (marker.gap ++ (marker.digits ++ rest)))) =
        some (marker.gap ++ (marker.digits ++ rest)) :=
    afterPhrase?_eq_some_iff.mpr ⟨marker.words, rfl, marker.sameWords⟩
  have gapEnds : ∀ c ∈ (marker.digits ++ rest).head?, isGap c = false := by
    intro c first
    rw [List.head?_append_of_ne_nil _ marker.digits_ne_nil] at first
    exact isGap_of_isDecimalDigit (marker.isDigit_of_mem c (List.mem_of_mem_head? first))
  rw [Notes.map_value_statedTotal lineStart phrase,
    takeWhile_append_of_ends marker.isGap_of_mem gapEnds,
    dropWhile_append_of_ends marker.isGap_of_mem gapEnds,
    takeWhile_append_of_ends marker.isDigit_of_mem ends,
    if_pos ⟨marker.gap_ne_nil, marker.digits_ne_nil⟩]

/-- Where a total is stated, the pattern applies to what the document holds from there on. -/
theorem TotalMarker.isAt_iff {marker : TotalMarker} {document place : List Char} :
    marker.IsAt document place ↔ ∃ text, document = place ++ text ∧ marker.IsAt text [] := by
  constructor
  · rintro ⟨rest, rfl, ends⟩
    exact ⟨_, rfl, rest, rfl, ends⟩
  · rintro ⟨text, rfl, rest, rfl, ends⟩
    exact ⟨rest, rfl, ends⟩

/-! ### The first match -/

namespace Pattern

variable {α : Type} {pattern : Pattern α}

/-- Where the pattern does not apply anywhere, nothing is found. -/
theorem hitsFrom_eq_nil {document : List Char} (lineStart : Bool)
    (fails : ∀ place text, document = place ++ text → ∀ atStart, pattern atStart text = none) :
    hitsFrom pattern 0 lineStart document = [] := by
  induction document generalizing lineStart with
  | nil => rfl
  | cons c document ih =>
      rw [hitsFrom_cons_of_none (fails [] _ rfl lineStart)]
      exact ih _ fun place text split => fails (c :: place) text (congrArg (c :: ·) split)

/-- **The first match is at the first place where the pattern applies.** -/
theorem head?_hitsFrom {place : List Char} {c : Char} {text : List Char} {value : α}
    (lineStart : Bool)
    (applies : ∀ atStart, (pattern atStart (c :: text)).map Hit.value = some value)
    (fails : ∀ before rest, place ++ c :: text = before ++ rest → before.length < place.length →
      ∀ atStart, pattern atStart rest = none) :
    (hitsFrom pattern 0 lineStart (place ++ c :: text)).head? = some value := by
  induction place generalizing lineStart with
  | nil =>
      obtain ⟨hit, found, rfl⟩ := Option.map_eq_some_iff.mp (applies lineStart)
      rw [List.nil_append, hitsFrom_cons_of_some found, List.head?_cons]
  | cons d place ih =>
      have passed : pattern lineStart (d :: (place ++ c :: text)) = none :=
        fails [] _ rfl (Nat.succ_pos _) lineStart
      rw [List.cons_append, hitsFrom_cons_of_none passed]
      exact ih _ fun before rest split earlier =>
        fails (d :: before) rest (congrArg (d :: ·) split) (Nat.succ_lt_succ earlier)

end Pattern

/-! ### What is stated first -/

/-- Of the places with a property one is the first. -/
theorem exists_first {P : List Char → Prop} (h : ∃ place, P place) :
    ∃ place, P place ∧ ∀ other, P other → place.length ≤ other.length := by
  obtain ⟨place, holds, least⟩ := (measure List.length).wf.has_min {place | P place} h
  exact ⟨place, holds, fun other holds => Nat.le_of_not_lt (least other holds)⟩

/-- A document that states no total. -/
def IsUnstated (document : List Char) : Prop :=
  ∀ (marker : TotalMarker) place, ¬ marker.IsAt document place

/-- No total is stated before a place of a document. -/
def IsUnstatedBefore (document place : List Char) : Prop :=
  ∀ (marker : TotalMarker) before, marker.IsAt document before → place.length ≤ before.length

/-- **The first total that can be read.** -/
structure IsFirstReadable (document place : List Char) (total : Nat) : Prop where
  stated : ∃ marker : TotalMarker, marker.IsAt document place ∧ marker.Reads total
  unreadBefore : ∀ (marker : TotalMarker) before, marker.IsAt document before →
    before.length < place.length → ∀ number, ¬ marker.Reads number

section First

variable {document place : List Char} {marker : TotalMarker} {total : Nat}

/-- Of the totals that are stated one is the first. -/
theorem TotalMarker.IsAt.exists_isUnstatedBefore (stated : marker.IsAt document place) :
    ∃ (other : TotalMarker) (first : List Char), other.IsAt document first ∧
      IsUnstatedBefore document first := by
  obtain ⟨first, ⟨other, isAt⟩, least⟩ := exists_first
    (P := fun place => ∃ marker : TotalMarker, marker.IsAt document place) ⟨place, marker, stated⟩
  exact ⟨other, first, isAt, fun marker before isBefore => least before ⟨marker, isBefore⟩⟩

/-- Of the totals that can be read one is the first. -/
theorem TotalMarker.Reads.exists_isFirstReadable (reads : marker.Reads total)
    (stated : marker.IsAt document place) :
    ∃ first number, IsFirstReadable document first number := by
  obtain ⟨first, ⟨other, number, isAt, isNumber⟩, least⟩ := exists_first
    (P := fun place => ∃ (marker : TotalMarker) (total : Nat),
      marker.IsAt document place ∧ marker.Reads total) ⟨place, marker, total, stated, reads⟩
  refine ⟨first, number, ⟨other, isAt, isNumber⟩, ?_⟩
  intro marker before isBefore earlier number reads
  exact absurd (least before ⟨marker, number, isBefore, reads⟩) (Nat.not_le_of_lt earlier)

/-- Where no total is stated, the pattern does not apply. -/
theorem statedTotal_eq_none {text : List Char} (split : document = place ++ text)
    (unstated : ∀ marker : TotalMarker, ¬ marker.IsAt document place) (lineStart : Bool) :
    statedTotal lineStart text = none := by
  refine Option.eq_none_iff_forall_ne_some.mpr fun hit applies => ?_
  obtain ⟨marker, stated, -⟩ := exists_of_statedTotal (congrArg (Option.map Hit.value) applies)
  exact unstated marker (TotalMarker.isAt_iff.mpr ⟨text, split, stated⟩)

/-- **What is stated first is found first.** -/
theorem head?_hits_statedTotal (stated : marker.IsAt document place)
    (first : IsUnstatedBefore document place) :
    (statedTotal.hits document).head? = some marker.digits := by
  obtain ⟨text, rfl, atText⟩ := TotalMarker.isAt_iff.mp stated
  have applies := atText.map_value_statedTotal
  cases text with
  | nil => cases applies true
  | cons c text =>
      refine Pattern.head?_hitsFrom true applies fun before rest split earlier =>
        statedTotal_eq_none split fun other isBefore => ?_
      exact absurd (first other before isBefore) (Nat.not_le_of_lt earlier)

/-- Just a document that states no total has no match. -/
theorem hits_statedTotal_eq_nil_iff : statedTotal.hits document = [] ↔ IsUnstated document := by
  constructor
  · intro noMatch marker place stated
    obtain ⟨other, before, isAt, first⟩ := stated.exists_isUnstatedBefore
    have found := head?_hits_statedTotal isAt first
    rw [noMatch] at found
    cases found
  · intro unstated
    exact Pattern.hitsFrom_eq_nil true fun place text split =>
      statedTotal_eq_none split fun marker => unstated marker place

/-- A total is the first that can be read, if the pattern applies there with a number that can be
read, and at no place before. -/
theorem isFirstReadable_of_statedTotal {text : List Char}
    (here : ((statedTotal true text).map Hit.value).bind readTotal? = some total)
    (before : ∀ n < place.length,
      ((statedTotal true ((place ++ text).drop n)).map Hit.value).bind readTotal? = none) :
    IsFirstReadable (place ++ text) place total where
  stated := by
    obtain ⟨digits, applies, isTotal⟩ := Option.bind_eq_some_iff.mp here
    obtain ⟨marker, stated, rfl⟩ := exists_of_statedTotal applies
    exact ⟨marker, TotalMarker.isAt_iff.mpr ⟨text, rfl, stated⟩,
      TotalMarker.readTotal?_eq_some_iff.mp isTotal⟩
  unreadBefore marker other isAt earlier number reads := by
    obtain ⟨rest, split, atRest⟩ := TotalMarker.isAt_iff.mp isAt
    have unread := before other.length earlier
    rw [split, List.drop_left, atRest.map_value_statedTotal, Option.bind_some,
      TotalMarker.readTotal?_eq_some_iff.mpr reads] at unread
    cases unread

/-- A total that is too large, above one that can be read, and one heading. -/
theorem isFirstReadable_below_large :
    let place := "## Lead: Acme\n\nTotal Leads Found: 18446744073709551616\n".toList
    IsFirstReadable (place ++ "Total leads found: 37\n".toList) place 37 :=
  isFirstReadable_of_statedTotal (by decide) (by decide)

/-! ### The number of leads -/

/-- The number of leads is what is stated first, if it can be read. -/
theorem leadCount_of_isUnstatedBefore (stated : marker.IsAt document place)
    (first : IsUnstatedBefore document place) :
    leadCount document = (readTotal? marker.digits).getD (leadHeading.hits document).length := by
  rw [leadCount, head?_hits_statedTotal stated first, Option.bind_some]

/-- Behind a total that cannot be read no other is looked at. -/
theorem IsFirstReadable.leadCount_of_stated_before (first : IsFirstReadable document place total)
    (statedBefore : ¬ IsUnstatedBefore document place) :
    leadCount document = (leadHeading.hits document).length := by
  simp only [IsUnstatedBefore, not_forall, Nat.not_le] at statedBefore
  obtain ⟨marker, before, isBefore, earlier⟩ := statedBefore
  obtain ⟨other, least, isAt, unstated⟩ := isBefore.exists_isUnstatedBefore
  have isEarlier := Nat.lt_of_le_of_lt (unstated marker before isBefore) earlier
  have unreadable : readTotal? other.digits = none :=
    Option.eq_none_iff_forall_ne_some.mpr fun number isNumber =>
      first.unreadBefore other least isAt isEarlier number
        (TotalMarker.readTotal?_eq_some_iff.mp isNumber)
  rw [leadCount_of_isUnstatedBefore isAt unstated, unreadable, Option.getD_none]

/-- **The first total that can be read is the number of leads, if nothing is stated before it.** If
a total that cannot be read is stated before it, the number of leads is that of their headings. -/
theorem leadCount_eq_iff_isUnstatedBefore (document : List Char) :
    ((∃ (marker : TotalMarker) (place : List Char) (total : Nat),
        marker.IsAt document place ∧ marker.Reads total) →
      ∃ place total, IsFirstReadable document place total) ∧
    ∀ place total, IsFirstReadable document place total →
      (leadCount document = total ↔
        IsUnstatedBefore document place ∨ (leadHeading.hits document).length = total) ∧
      (¬ IsUnstatedBefore document place →
        leadCount document = (leadHeading.hits document).length) := by
  constructor
  · rintro ⟨marker, place, total, stated, reads⟩
    exact reads.exists_isFirstReadable stated
  · intro place total first
    refine ⟨?_, first.leadCount_of_stated_before⟩
    by_cases unstated : IsUnstatedBefore document place
    · obtain ⟨marker, stated, reads⟩ := first.stated
      have isTotal := leadCount_of_isUnstatedBefore stated unstated
      rw [TotalMarker.readTotal?_eq_some_iff.mpr reads, Option.getD_some] at isTotal
      exact iff_of_true isTotal (Or.inl unstated)
    · rw [first.leadCount_of_stated_before unstated, or_iff_right unstated]

/-- Below a total that is too large, one that can be read is not looked at: there is one heading. -/
theorem leadCount_eq_iff_isUnstatedBefore_large :
    let place := "## Lead: Acme\n\nTotal Leads Found: 18446744073709551616\n".toList
    let document := place ++ "Total leads found: 37\n".toList
    IsFirstReadable document place 37 ∧ ¬ IsUnstatedBefore document place ∧
      leadCount document = 1 := by
  intro place document
  have large : (statedTotal true (document.drop 15)).map Hit.value =
      some "18446744073709551616".toList := by decide
  obtain ⟨marker, atText, -⟩ := exists_of_statedTotal large
  have isAt : marker.IsAt document (document.take 15) :=
    TotalMarker.isAt_iff.mpr ⟨_, (List.take_append_drop 15 document).symm, atText⟩
  have earlier : (document.take 15).length < place.length := by decide
  have statedBefore : ¬ IsUnstatedBefore document place := fun unstated =>
    absurd (unstated marker _ isAt) (Nat.not_le_of_lt earlier)
  have headings : (leadHeading.hits document).length = 1 := by decide
  have counted := ((leadCount_eq_iff_isUnstatedBefore document).2 place 37
    isFirstReadable_below_large).2 statedBefore
  exact ⟨isFirstReadable_below_large, statedBefore, counted.trans headings⟩

/-- **A total that can be read is not always used.** -/
theorem not_forall_leadCount_eq :
    ¬ ∀ document place total, IsFirstReadable document place total →
      leadCount document = total := by
  intro used
  have unused := used _ _ _ isFirstReadable_below_large
  revert unused
  decide

end First

end FleetWatch.Notes
