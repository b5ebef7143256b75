import FleetWatch.Toml.Basic

/-!
# Scanning TOML

The parts of a document that hold no values: white space, ends of lines and comments, and the
texts between quotation marks.

## Main Definitions

* `Toml.Scan` — a reader that takes characters from the start of a text
* `Toml.lineEnd`, `Toml.skipLines` — what may stand after and between values
* `Toml.quoted` — a text in one of the four forms
-/

namespace FleetWatch.Toml

/-- A reader that takes characters from the start of a text, or refuses it. -/
abbrev Scan := StateT (List Char) Option

namespace Scan

/-- The next character, which is not taken. -/
def peek : Scan (Option Char) := do
  return (← get).head?

/-- Takes one given character. -/
def char (c : Char) : Scan Unit := do
  match ← get with
  | [] => failure
  | d :: rest => if d == c then set rest else failure

/-- Takes a given word. -/
def word (w : List Char) : Scan Unit := do
  let cs ← get
  if w.isPrefixOf cs then set (cs.drop w.length) else failure

/-- Takes all characters of a class that come next. -/
def many (p : Char → Bool) : Scan (List Char) := do
  let cs ← get
  set (cs.dropWhile p)
  return cs.takeWhile p

/-- Takes what a reader takes, or nothing. -/
def optional {α : Type} (scan : Scan α) : Scan (Option α) :=
  (some <$> scan) <|> pure none

/-- Reads to the end of the text. -/
def toEnd {α : Type} (scan : Scan α) (source : List Char) : Option α :=
  match StateT.run scan source with
  | some (a, []) => some a
  | _ => none

end Scan

/-! ### Space -/

/-- The white space within a line. -/
def isSpace (c : Char) : Bool :=
  c == ' ' || c == '\t'

/-- A character that may stand in a comment or a text: a tab, or no control character. -/
def isPlain (c : Char) : Bool :=
  c == '\t' || (0x20 ≤ c.toNat && c.toNat != 0x7F)

/-- Takes white space within a line. -/
def spaces : Scan Unit := do
  let _ ← Scan.many isSpace

/-- Takes the end of a line. -/
def newline : Scan Unit :=
  Scan.word ['\n'] <|> Scan.word ['\r', '\n']

/-- Takes a comment. -/
def comment : Scan Unit := do
  Scan.char '#'
  let _ ← Scan.many isPlain

/-- Takes the end of a line or stands at the end of the text. -/
def lineEnd : Scan Unit := do
  if (← get).isEmpty then return
  newline

/-- Takes what may follow a value on its line. -/
def trailing : Scan Unit := do
  spaces
  let _ ← Scan.optional comment
  lineEnd

/-- The rest of a text after white space, ends of lines, and comments that reach to an end of a
line. -/
def skipLinesFrom (inComment : Bool) : List Char → Option (List Char)
  | [] => if inComment then none else some []
  | '\n' :: cs => skipLinesFrom false cs
  | '\r' :: '\n' :: cs => skipLinesFrom false cs
  | c :: cs =>
    if inComment then if isPlain c then skipLinesFrom true cs else none
    else if isSpace c then skipLinesFrom false cs
    else if c == '#' then skipLinesFrom true cs
    else some (c :: cs)

/-- Takes white space, ends of lines, and comments that reach to an end of a line. -/
def skipLines : Scan Unit := do
  set (← StateT.lift (skipLinesFrom false (← get)))

/-! ### Quoted texts -/

/-- The form of a quoted text: its quotation mark, whether it knows escapes, and whether it may
have several lines, in which case it stands between three marks. -/
structure QuoteForm where
  mark : Char
  escapes : Bool
  lines : Bool

/-- The value of a hexadecimal digit of either case. -/
def hexValue? (c : Char) : Option Nat :=
  if c.isDigit then some (c.toNat - '0'.toNat)
  else if 'a' ≤ c && c ≤ 'f' then some (c.toNat - 'a'.toNat + 10)
  else if 'A' ≤ c && c ≤ 'F' then some (c.toNat - 'A'.toNat + 10)
  else none

/-- The character whose number is given by exactly `n` hexadecimal digits. -/
def hexChar? (n : Nat) (cs : List Char) : Option Char := do
  let digits ← (cs.take n).mapM hexValue?
  let value := digits.foldl (fun value digit => value * 16 + digit) 0
  if digits.length = n ∧ Nat.isValidChar value then some (Char.ofNat value) else none

/-- The character that an escape stands for, and the number of characters after the backslash. -/
def escape? : List Char → Option (Char × Nat)
  | 'b' :: _ => some ('\x08', 1)
  | 't' :: _ => some ('\t', 1)
  | 'n' :: _ => some ('\n', 1)
  | 'f' :: _ => some ('\x0c', 1)
  | 'r' :: _ => some ('\r', 1)
  | '"' :: _ => some ('"', 1)
  | '\\' :: _ => some ('\\', 1)
  | 'u' :: cs => (hexChar? 4 cs).map (·, 5)
  | 'U' :: cs => (hexChar? 8 cs).map (·, 9)
  | _ => none

/-- The number of characters of white space and ends of lines that come next. -/
def gapLength : List Char → Nat
  | '\n' :: cs => gapLength cs + 1
  | '\r' :: '\n' :: cs => gapLength cs + 2
  | c :: cs => if isSpace c then gapLength cs + 1 else 0
  | [] => 0

/-- The number of characters that a backslash at the end of a line takes out: the rest of the
line, which is white space, and all white space and ends of lines after it. -/
def continuation? (cs : List Char) : Option Nat :=
  let blank := cs.takeWhile isSpace
  match cs.drop blank.length with
  | '\n' :: _ => some (gapLength cs)
  | '\r' :: '\n' :: _ => some (gapLength cs)
  | _ => none

/-- The text up to the closing quotation mark, and what follows the mark, after some characters
that are to be skipped. Up to two marks that do not close a text of several lines belong to it,
also directly before the closing ones. -/
def quotedFrom (form : QuoteForm) :
    (skip : Nat) → (taken : List Char) → List Char → Option (List Char × List Char)
  | _, _, [] => none
  | skip + 1, taken, _ :: cs => quotedFrom form skip taken cs
  | 0, taken, c :: cs =>
    if c == form.mark then
      if !form.lines then some (taken.reverse, cs)
      else
        let marks := ((c :: cs).takeWhile (· == form.mark)).length
        if marks < 3 then quotedFrom form 0 (c :: taken) cs
        else if marks ≤ 5 then
          some (taken.reverse ++ List.replicate (marks - 3) c, cs.drop (marks - 1))
        else none
    else if c == '\\' && form.escapes then
      match if form.lines then continuation? cs else none with
      | some n => quotedFrom form n taken cs
      | none =>
        match escape? cs with
        | some (e, n) => quotedFrom form n (e :: taken) cs
        | none => none
    else if c == '\n' && form.lines then quotedFrom form 0 ('\n' :: taken) cs
    else if c == '\r' && form.lines && cs.head? == some '\n' then quotedFrom form 0 taken cs
    else if isPlain c then quotedFrom form 0 (c :: taken) cs
    else none

/-- Takes a text after its opening quotation mark. -/
def quotedBody (form : QuoteForm) : Scan String := do
  let (chars, rest) ← StateT.lift (quotedFrom form 0 [] (← get))
  set rest
  return String.ofList chars

/-- Takes a text on one line, of the given quotation mark. -/
def quotedLine (mark : Char) : Scan String := do
  Scan.char mark
  quotedBody ⟨mark, mark == '"', false⟩

/-- Takes a text in any form, of the given quotation mark. An end of a line directly after three
opening marks does not count. -/
def quoted (mark : Char) : Scan String := do
  if [mark, mark, mark].isPrefixOf (← get) then
    Scan.word [mark, mark, mark]
    let _ ← Scan.optional newline
    quotedBody ⟨mark, mark == '"', true⟩
  else quotedLine mark

end FleetWatch.Toml
