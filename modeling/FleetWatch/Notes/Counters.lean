import FleetWatch.Notes.Pattern
import FleetWatch.Text.DecimalDigit

/-!
# Counters of notes

What is counted in notes that people write by hand. The notes have no fixed form, so the counts
are by marks at the starts of lines: headings of the second and third level, and bullets.

## Main Definitions

* `leadCount` — the total that the notes state, or else the headings of leads
* `propertyCount` — the headings of the second level
* `ideaCount` — the headings of the second and third level, or else the bullets
* `lastHeading?` — the text of the last heading of the second level
-/

namespace FleetWatch.Notes

open Text

/-- The mark of a heading of the second level. -/
def secondLevel : List Char := ['#', '#']

/-- The mark of a heading of the third level. -/
def thirdLevel : List Char := ['#', '#', '#']

/-! ### Leads -/

/-- Whether a character is a given lower-case letter in either case. The long s is an s. -/
def sameLetter (letter c : Char) : Bool :=
  c.toLower == letter || (letter == 's' && c == 'ſ')

/-- What follows a phrase in a text, if the text starts with it in any mixture of cases. -/
def afterPhrase? : (phrase text : List Char) → Option (List Char)
  | [], text => some text
  | _ :: _, [] => none
  | p :: ps, c :: cs => if sameLetter p c then afterPhrase? ps cs else none

/-- The words before the stated total. -/
def totalPhrase : List Char := "total leads found".toList

/-- The pattern of a stated total: the words in any case, colons or white space, and a run of
digits of any script, which is what is of interest. -/
def statedTotal : Pattern (List Char) := fun _ cs => do
  let rest ← afterPhrase? totalPhrase cs
  let gap := rest.takeWhile fun c => c == ':' || isBlank c
  let digits := (rest.drop gap.length).takeWhile isDecimalDigit
  if h : 0 < gap.length ∧ 0 < digits.length then
    some ⟨totalPhrase.length + gap.length + digits.length, digits, by omega⟩
  else none

/-- The number that a run of digits stands for, if they are all ASCII and it fits 64 bits. -/
def readTotal? (digits : List Char) : Option Nat :=
  if digits.all Char.isDigit && asciiValue digits < Nat.pow 2 64 then some (asciiValue digits)
  else none

/-- The word that starts the heading of a lead. -/
def leadWord : List Char := ['L', 'e', 'a', 'd']

/-- The pattern of the heading of a lead. -/
def leadHeading : Pattern Unit := fun lineStart cs => do
  let mark ← marked [secondLevel] lineStart cs
  if leadWord.isPrefixOf (cs.drop mark.length) then
    some ⟨mark.length + leadWord.length, (), Nat.add_pos_left mark.length_pos _⟩
  else none

/-- The number of leads: the first total that the notes state, or the number of headings of leads
if there is none or it cannot be read. -/
def leadCount (document : List Char) : Nat :=
  ((statedTotal.hits document).head?.bind readTotal?).getD (leadHeading.hits document).length

/-! ### Properties and ideas -/

/-- The number of properties: of headings of the second level. -/
def propertyCount (document : List Char) : Nat :=
  (Pattern.hits (marked [secondLevel]) document).length

/-- The number of ideas: of headings of the second and third level, or of bullets if there are no
headings. -/
def ideaCount (document : List Char) : Nat :=
  match (Pattern.hits (marked [secondLevel, thirdLevel]) document).length with
  | 0 => (Pattern.hits (marked [['-'], ['*']]) document).length
  | headings => headings

/-! ### The last heading -/

/-- The last character of a run of white space that is not a line break and not the first of the
run, with the number of characters before it. -/
def lastInline? (blank : List Char) : Option (Nat × Char) :=
  (blank.zipIdx.drop 1).reverse.findSome? fun (c, index) =>
    if c == '\n' then none else some (index, c)

/-- The pattern of a heading of the second level and its text: the rest of the line on which the
white space after the mark ends. If only white space follows in the whole document, its last
character that is not a line break is the text. -/
def heading : Pattern (List Char) := fun lineStart cs =>
  if h : lineStart && secondLevel.isPrefixOf cs then
    let blank := (cs.drop 2).takeWhile isBlank
    let rest := cs.drop (2 + blank.length)
    if blank.isEmpty then none
    else if rest.isEmpty then
      (lastInline? blank).map fun (before, c) => ⟨2 + before + 1, [c], by omega⟩
    else
      let text := rest.takeWhile (· != '\n')
      some ⟨2 + blank.length + text.length, text, by omega⟩
  else none

/-- The text of the last heading of the second level, without the white space around it. -/
def lastHeading? (document : List Char) : Option (List Char) :=
  (heading.hits document).getLast?.map trim

end FleetWatch.Notes
