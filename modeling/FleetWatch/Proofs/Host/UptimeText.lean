import FleetWatch.Host.Uptime
import FleetWatch.Proofs.Text.Digits
import FleetWatch.Proofs.Text.Excerpt
import FleetWatch.Proofs.Text.Lines

/-!
# What an uptime in words tells

An uptime in words can be read back, so two uptimes are told in the same words just if the amounts
in them are the same, and these leave out nothing but the seconds of the last minute.

## Main Definitions

* `Uptime.Amounts` — days, hours and minutes
* `Uptime.quantity?` — the number of units that a part of a text tells
* `Uptime.read?` — the amounts that a text tells

## Design Notes

The reader knows nothing of how the text is made. With a blank in front of the text, every part
between commas starts with one, so the first part is read as all others are.
-/

namespace FleetWatch

open Text

namespace Uptime

/-! ### Reading -/

/-- Days, hours and minutes. -/
structure Amounts where
  days : Nat
  hours : Nat
  minutes : Nat
deriving DecidableEq, Repr

/-- The number of units that a part of a text tells: a blank, digits, another blank and the unit, in
the plural unless there is one. -/
def quantity? (unit : String) : List Char → Option Nat
  | ' ' :: part =>
    let digits := part.takeWhile Char.isDigit
    let plural := if asciiValue digits = 1 then [] else ['s']
    if digits ≠ [] ∧ part.dropWhile Char.isDigit = ' ' :: (unit.toList ++ plural) then
      some (asciiValue digits)
    else none
  | _ => none

/-- The number of a unit in the first of some parts, and the parts that are left. A unit that is not
told there is left out, and counts zero. -/
def take (unit : String) : List (List Char) → Nat × List (List Char)
  | [] => (0, [])
  | part :: parts =>
    match quantity? unit part with
    | some n => (n, parts)
    | none => (0, part :: parts)

/-- The amounts that a text tells in parts between commas, largest unit first. -/
def read? (text : String) : Option Amounts :=
  let (days, parts) := take "day" (segments ',' (' ' :: text.toList))
  let (hours, parts) := take "hour" parts
  let (minutes, parts) := take "minute" parts
  if parts.isEmpty then some ⟨days, hours, minutes⟩ else none

/-! ### Quantities -/

/-- A part of a text, behind a blank. -/
def spaced (part : String) : List Char :=
  ' ' :: part.toList

/-- The characters of a quantity. -/
theorem toList_quantity (n : Nat) (unit : String) :
    (quantity n unit).toList =
      decimal n ++ ' ' :: (unit.toList ++ if n = 1 then [] else ['s']) := by
  have plural : (if n = 1 then "" else "s").toList = if n = 1 then [] else ['s'] := by
    split <;> rfl
  simp [quantity, plural]

/-- **A quantity is read in its unit**, and in no other. -/
theorem quantity?_quantity (unit unit' : String) (n : Nat) :
    quantity? unit (spaced (quantity n unit')) = if unit = unit' then some n else none := by
  have digits : ∀ c ∈ decimal n, c.isDigit = true := fun c mem => isDigit_of_mem_decimal mem
  have taken (rest : List Char) : (decimal n ++ ' ' :: rest).takeWhile Char.isDigit = decimal n :=
    takeWhile_append_of_ends digits (by simp)
  have left (rest : List Char) : (decimal n ++ ' ' :: rest).dropWhile Char.isDigit = ' ' :: rest :=
    dropWhile_append_of_ends digits (by simp)
  have nonempty : decimal n ≠ [] := Nat.toDigits_ne_nil
  have same : (decimal n ≠ [] ∧
      ' ' :: (unit'.toList ++ if n = 1 then [] else ['s']) =
        ' ' :: (unit.toList ++ if n = 1 then [] else ['s'])) ↔ unit = unit' := by
    rw [and_iff_right nonempty, List.cons_inj_right, List.append_cancel_right_eq,
      String.toList_inj, eq_comm]
  rw [spaced, toList_quantity]
  simp only [quantity?, taken, left, asciiValue_decimal, same]

/-- There is no comma in a quantity, if there is none in its unit. -/
theorem comma_notMem_quantity {unit : String} (n : Nat) (h : ',' ∉ unit.toList) :
    ',' ∉ (quantity n unit).toList := by
  have digits : ',' ∉ decimal n := fun mem => absurd (isDigit_of_mem_decimal mem) (by decide)
  have plural : ',' ∉ if n = 1 then [] else ['s'] := by split <;> decide
  rw [toList_quantity]
  simp [digits, h, plural]

/-! ### Parts -/

section Parts

variable {shown : Prop} [Decidable shown] {n : Nat} {unit unit' : String}

/-- **A unit is read at its place**, also if it is left out because there is none of it, where no
part behind it tells this unit. -/
theorem take_quantity {rest : List (List Char)} (leftOut : ¬ shown → n = 0)
    (others : ∀ part ∈ rest, quantity? unit part = none) :
    take unit ((if shown then [quantity n unit] else []).map spaced ++ rest) = (n, rest) := by
  by_cases isShown : shown
  · rw [if_pos isShown, List.map_singleton, List.singleton_append, take, quantity?_quantity,
      if_pos rfl]
  · obtain rfl := leftOut isShown
    rw [if_neg isShown, List.map_nil, List.nil_append]
    cases rest with
    | nil => rfl
    | cons part parts => rw [take, others part List.mem_cons_self]

/-- A unit that can stand alone is left out only if there is none of it. -/
theorem eq_zero_of_leftOut {alone : Bool} (leftOut : ¬ (decide (0 < n) || alone) = true) :
    n = 0 := by
  rw [Bool.or_eq_true, decide_eq_true_eq, not_or] at leftOut
  exact Nat.eq_zero_of_not_pos leftOut.1

/-- What holds of a part holds wherever it is shown. -/
theorem forall_mem_shown {p : String → Prop} {part : String} (h : p part) :
    ∀ other ∈ (if shown then [part] else []), p other := by
  split
  · exact List.forall_mem_singleton.mpr h
  · exact List.forall_mem_nil p

/-- No part tells a unit that is not its own. -/
theorem quantity?_of_ne (ne : unit ≠ unit') :
    ∀ part ∈ (if shown then [quantity n unit'] else []).map spaced, quantity? unit part = none := by
  rw [List.forall_mem_map]
  exact forall_mem_shown (by rw [quantity?_quantity, if_neg ne])

/-- A part has no comma in it, if its unit has none. -/
theorem comma_notMem_of_mem (h : ',' ∉ unit.toList) :
    ∀ part ∈ (if shown then [quantity n unit] else []), ',' ∉ part.toList :=
  forall_mem_shown (comma_notMem_quantity n h)

end Parts

/-- An uptime has at least one part. -/
theorem uptimeParts_ne_nil (seconds : Nat) : uptimeParts seconds ≠ [] := by
  intro none
  rw [uptimeParts, List.append_eq_nil_iff] at none
  obtain ⟨large, minutes⟩ := none
  rw [large] at minutes
  simp at minutes

/-- Parts that are joined by commas and blanks, with a blank in front of all. -/
theorem cons_intercalate {parts : List (List Char)} (ne : parts ≠ []) :
    ' ' :: List.intercalate [',', ' '] parts = List.intercalate [','] (parts.map (' ' :: ·)) := by
  induction parts with
  | nil => exact absurd rfl ne
  | cons part parts ih =>
      cases parts with
      | nil => rw [List.map_singleton, List.intercalate_singleton, List.intercalate_singleton]
      | cons part' parts =>
          have rest := ih (List.cons_ne_nil _ _)
          rw [List.map_cons, List.map_cons, List.intercalate_cons_cons,
            List.intercalate_cons_cons, ← List.map_cons, ← rest]
          simp

/-- **The parts of an uptime are those of its words between commas.** -/
theorem segments_uptimeText (seconds : Nat) :
    segments ',' (' ' :: (uptimeText seconds).toList) = (uptimeParts seconds).map spaced := by
  have noComma : ∀ part ∈ uptimeParts seconds, ',' ∉ part.toList := by
    rw [uptimeParts, List.forall_mem_append, List.forall_mem_append]
    exact ⟨⟨comma_notMem_of_mem (by decide), comma_notMem_of_mem (by decide)⟩,
      comma_notMem_of_mem (by decide)⟩
  have ne : (uptimeParts seconds).map String.toList ≠ [] := by
    simpa using uptimeParts_ne_nil seconds
  have joined : ' ' :: (uptimeText seconds).toList =
      List.intercalate [','] ((uptimeParts seconds).map spaced) := by
    rw [uptimeText, String.toList_intercalate]
    exact (cons_intercalate ne).trans (by rw [List.map_map]; rfl)
  rw [joined]
  refine segments_intercalate ',' (by simpa using uptimeParts_ne_nil seconds) ?_
  rw [List.forall_mem_map]
  intro part mem
  exact List.not_mem_cons_of_ne_of_not_mem (by decide) (noComma part mem)

/-! ### Amounts -/

/-- **An uptime in words is read back**, down to the minutes. -/
theorem read?_uptimeText (seconds : Nat) :
    read? (uptimeText seconds) =
      some ⟨seconds / 86400, seconds % 86400 / 3600, seconds % 3600 / 60⟩ := by
  -- Behind the days no part tells days, behind the hours none tells hours, and behind the minutes
  -- nothing is left.
  rw [read?, segments_uptimeText, uptimeParts, List.map_append, List.map_append, List.append_assoc,
    take_quantity Nat.eq_zero_of_not_pos (List.forall_mem_append.mpr
      ⟨quantity?_of_ne (by decide), quantity?_of_ne (by decide)⟩)]
  dsimp only
  rw [take_quantity Nat.eq_zero_of_not_pos (quantity?_of_ne (by decide))]
  dsimp only
  rw [← List.append_nil (List.map spaced _), take_quantity eq_zero_of_leftOut (by simp)]
  rfl

example : read? "3 days, 1 hour" = some ⟨3, 1, 0⟩ ∧ read? "1 days" = none := by decide +kernel

/-- Only whole minutes count for the words. -/
theorem uptimeText_of_minutes {s t : Nat} (same : s / 60 = t / 60) :
    uptimeText s = uptimeText t := by
  have days : s / 86400 = t / 86400 := by omega
  have hours : s % 86400 / 3600 = t % 86400 / 3600 := by omega
  have minutes : s % 3600 / 60 = t % 3600 / 60 := by omega
  rw [uptimeText, uptimeText, uptimeParts, uptimeParts, days, hours, minutes]

/-- **An uptime in words loses nothing but the seconds.** Two uptimes are told in the same words
just if they have the same number of whole minutes. The amounts that are told, with nothing for a
unit that is left out, are hours of a day and minutes of an hour, and fall short of the uptime by
less than a minute. -/
theorem uptimeText_eq_iff (s t : Nat) :
    (uptimeText s = uptimeText t ↔ s / 60 = t / 60) ∧
    ∃ amounts, read? (uptimeText s) = some amounts ∧ amounts.hours < 24 ∧ amounts.minutes < 60 ∧
      amounts.days * 86400 + amounts.hours * 3600 + amounts.minutes * 60 ≤ s ∧
      s < amounts.days * 86400 + amounts.hours * 3600 + amounts.minutes * 60 + 60 := by
  refine ⟨⟨fun same => ?_, uptimeText_of_minutes⟩, _, read?_uptimeText s, ?_⟩
  · have amounts := congrArg read? same
    rw [read?_uptimeText, read?_uptimeText, Option.some_inj, Amounts.mk.injEq] at amounts
    omega
  · dsimp only
    omega

end Uptime

end FleetWatch
