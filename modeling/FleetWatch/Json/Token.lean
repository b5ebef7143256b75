import FleetWatch.Json.Basic

/-!
# JSON tokens

Cutting the characters of a document into tokens, one character at a time. A run of letters,
digits, signs and points between other characters is a word, which must be a literal or a number.

Numbers are kept exactly while they are whole and fit 64 bits, with or without a sign. Any other
number is read from as many leading digits as fit 64 bits and a power of ten.

## Main Definitions

* `Json.Token` — a token
* `Json.Token.scan?` — the tokens of a document, `none` if some part of it is no token
* `Json.Number.ofWord?` — the number that a word stands for

## Design Notes

The scanner is a step function on a state, so that a run over a document is a fold.
-/

namespace FleetWatch.Json

open FleetWatch.Text

/-- A token of a document. -/
inductive Token where
  | openArray
  | closeArray
  | openObject
  | closeObject
  | comma
  | colon
  | null
  | bool (value : Bool)
  | number (value : Number)
  | text (value : String)
deriving Repr

/-! ### Numbers -/

/-- The leading digits of a number, and the power of ten they are to be multiplied with. -/
structure Significand where
  value : Nat
  exponent : Int

/-- Whether a digit can be appended within 64 bits. -/
def Significand.takes (s : Significand) (digit : Char) : Bool :=
  s.value * 10 + (digit.toNat - '0'.toNat) < Nat.pow 2 64

/-- The significand with a digit appended. -/
def Significand.push (s : Significand) (digit : Char) : Nat :=
  s.value * 10 + (digit.toNat - '0'.toNat)

/-- Takes the digits before the point. From the first digit that does not fit, each digit counts
as a zero. -/
def Significand.whole (s : Significand) : List Char → Significand
  | [] => s
  | d :: ds =>
    if s.takes d then whole ⟨s.push d, s.exponent⟩ ds
    else { s with exponent := s.exponent + (ds.length + 1) }

/-- Takes the digits after the point. From the first digit that does not fit, the digits are left
out. -/
def Significand.fraction (s : Significand) : List Char → Significand
  | [] => s
  | d :: ds =>
    if s.takes d then fraction ⟨s.push d, s.exponent - 1⟩ ds else s

/-- The exponent part of a number: nothing, or a letter, a sign that may be absent, and at least
one digit. -/
def exponent? : List Char → Option Int
  | [] => some 0
  | e :: rest =>
    if e == 'e' || e == 'E' then
      let (negative, digits) :=
        match rest with
        | '+' :: ds => (false, ds)
        | '-' :: ds => (true, ds)
        | ds => (false, ds)
      if !digits.isEmpty && digits.all Char.isDigit then
        some (if negative then -(asciiValue digits : Int) else asciiValue digits)
      else none
    else none

/-- The number that a word stands for. The digits before the point have no needless zero at the
front, and neither they nor those after a point are missing. -/
def Number.ofWord? (word : List Char) : Option Number :=
  let (negative, magnitude) :=
    match word with
    | '-' :: rest => (true, rest)
    | rest => (false, rest)
  let digits := magnitude.takeWhile Char.isDigit
  let rest := magnitude.dropWhile Char.isDigit
  if digits.isEmpty || (digits.length != 1 && digits.head? == some '0') then none
  else
    let whole := Significand.whole ⟨0, 0⟩ digits
    match rest with
    | [] =>
      let value := asciiValue digits
      if negative then
        if 0 < value ∧ value ≤ Nat.pow 2 63 then some (.integer (-(value : Int)))
        else (Binary64.ofDecimal? true whole.value whole.exponent).map .float
      else if value < Nat.pow 2 64 then some (.integer value)
      else (Binary64.ofDecimal? false whole.value whole.exponent).map .float
    | '.' :: rest => do
      let fraction := rest.takeWhile Char.isDigit
      if fraction.isEmpty then none
      else
        let exponent ← exponent? (rest.dropWhile Char.isDigit)
        let significand := whole.fraction fraction
        (Binary64.ofDecimal? negative significand.value (significand.exponent + exponent)).map
          .float
    | rest => do
      let exponent ← exponent? rest
      (Binary64.ofDecimal? negative whole.value (whole.exponent + exponent)).map .float

/-- The token of a word: one of the three literals, or a number. -/
def Token.ofWord? (word : List Char) : Option Token :=
  if word == ['n', 'u', 'l', 'l'] then some .null
  else if word == ['t', 'r', 'u', 'e'] then some (.bool true)
  else if word == ['f', 'a', 'l', 's', 'e'] then some (.bool false)
  else (Number.ofWord? word).map .number

/-! ### The scanner -/

/-- Where the scanner stands. Characters and digits are kept last first. -/
inductive Place where
  /-- Between tokens. -/
  | between
  /-- In a word. -/
  | word (chars : List Char)
  /-- In a text. -/
  | text (chars : List Char)
  /-- In a text, after a backslash. -/
  | escape (chars : List Char)
  /-- In a text, among the four digits of a code unit; the leading surrogate before it, if one
  waits for its partner. -/
  | unit (chars : List Char) (leading : Option Nat) (digits : List Nat)
  /-- In a text, after a leading surrogate. -/
  | surrogate (chars : List Char) (leading : Nat)
  /-- In a text, after a leading surrogate and a backslash. -/
  | surrogateEscape (chars : List Char) (leading : Nat)

/-- The scanner: where it stands and the tokens so far, last first. -/
structure Scanner where
  place : Place
  tokens : List Token

/-- The white space that may stand between tokens. -/
def isSpace (c : Char) : Bool :=
  c == ' ' || c == '\t' || c == '\n' || c == '\r'

/-- A character of a word. -/
def isWordChar (c : Char) : Bool :=
  c.isAlphanum || c == '-' || c == '+' || c == '.'

/-- The value of a hexadecimal digit of either case. -/
def hexDigit? (c : Char) : Option Nat :=
  if c.isDigit then some (c.toNat - '0'.toNat)
  else if 'a' ≤ c && c ≤ 'f' then some (c.toNat - 'a'.toNat + 10)
  else if 'A' ≤ c && c ≤ 'F' then some (c.toNat - 'A'.toNat + 10)
  else none

/-- The character that a single letter after a backslash stands for. -/
def escaped? : Char → Option Char
  | '"' => some '"'
  | '\\' => some '\\'
  | '/' => some '/'
  | 'b' => some '\x08'
  | 'f' => some '\x0c'
  | 'n' => some '\n'
  | 'r' => some '\r'
  | 't' => some '\t'
  | _ => none

/-- One character between tokens. -/
def Scanner.between (tokens : List Token) (c : Char) : Option Scanner :=
  if isSpace c then some ⟨.between, tokens⟩
  else if c == '"' then some ⟨.text [], tokens⟩
  else if c == '[' then some ⟨.between, .openArray :: tokens⟩
  else if c == ']' then some ⟨.between, .closeArray :: tokens⟩
  else if c == '\x7b' then some ⟨.between, .openObject :: tokens⟩
  else if c == '\x7d' then some ⟨.between, .closeObject :: tokens⟩
  else if c == ',' then some ⟨.between, .comma :: tokens⟩
  else if c == ':' then some ⟨.between, .colon :: tokens⟩
  else if isWordChar c then some ⟨.word [c], tokens⟩
  else none

/-- The place after the four digits of a code unit. Surrogates count only in pairs, a leading one
first. -/
def Place.ofUnit? (chars : List Char) (leading : Option Nat) (unit : Nat) : Option Place :=
  match leading with
  | none =>
    if 0xD800 ≤ unit && unit ≤ 0xDBFF then some (.surrogate chars unit)
    else if 0xDC00 ≤ unit && unit ≤ 0xDFFF then none
    else some (.text (Char.ofNat unit :: chars))
  | some leading =>
    if 0xDC00 ≤ unit && unit ≤ 0xDFFF then
      some (.text
        (Char.ofNat (0x10000 + (leading - 0xD800) * 0x400 + (unit - 0xDC00)) :: chars))
    else none

/-- One character of a document. -/
def Scanner.step (s : Scanner) (c : Char) : Option Scanner :=
  match s.place with
  | .between => Scanner.between s.tokens c
  | .word chars =>
    if isWordChar c then some ⟨.word (c :: chars), s.tokens⟩
    else do
      let token ← Token.ofWord? chars.reverse
      Scanner.between (token :: s.tokens) c
  | .text chars =>
    if c == '"' then some ⟨.between, .text (String.ofList chars.reverse) :: s.tokens⟩
    else if c == '\\' then some ⟨.escape chars, s.tokens⟩
    else if c.toNat < 0x20 then none
    else some ⟨.text (c :: chars), s.tokens⟩
  | .escape chars =>
    if c == 'u' then some ⟨.unit chars none [], s.tokens⟩
    else (escaped? c).map fun e => ⟨.text (e :: chars), s.tokens⟩
  | .unit chars leading digits => do
    let digit ← hexDigit? c
    match digits with
    | [z, y, x] =>
      let place ← Place.ofUnit? chars leading (((x * 16 + y) * 16 + z) * 16 + digit)
      some ⟨place, s.tokens⟩
    | digits => some ⟨.unit chars leading (digit :: digits), s.tokens⟩
  | .surrogate chars leading =>
    if c == '\\' then some ⟨.surrogateEscape chars leading, s.tokens⟩ else none
  | .surrogateEscape chars leading =>
    if c == 'u' then some ⟨.unit chars (some leading) [], s.tokens⟩ else none

/-- The tokens at the end of a document, which may end a word but not a text. -/
def Scanner.finish? (s : Scanner) : Option (List Token) :=
  match s.place with
  | .between => some s.tokens.reverse
  | .word chars => do
    let token ← Token.ofWord? chars.reverse
    some (token :: s.tokens).reverse
  | _ => none

/-- The tokens of a document in order, `none` if some part of it is no token. -/
def Token.scan? (document : List Char) : Option (List Token) := do
  let s ← document.foldlM Scanner.step ⟨.between, []⟩
  s.finish?

end FleetWatch.Json
