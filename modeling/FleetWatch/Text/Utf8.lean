/-!
# UTF-8

Reading bytes as text. A byte sequence is cut into chunks: each is one well-formed character, or
one maximal malformed part, that is the longest start of a well-formed sequence that breaks off,
or else a single byte. Reading strictly refuses a malformed part; reading leniently puts one
replacement character in its place.

The decoder takes one byte at a time. It holds back at most the start of one sequence, and a
byte below `0x80` always leaves it with nothing held back, so a malformed part never reaches over
the end of a line.

## Main Definitions

* `Lead` — what the first byte of a sequence announces
* `Decoder` — the chunks so far and the sequence that has begun
* `chunks` — the characters and malformed parts of a byte sequence, in order
* `decode?` — strict reading
* `decodeLossy` — lenient reading
* `encode` — the bytes of a text
-/

namespace FleetWatch.Text.Utf8

/-- The start of a sequence: how many bytes are missing, the range in which the next of them must
lie, and the payload so far. -/
structure Pending where
  missing : Nat
  low : UInt8
  high : UInt8
  payload : Nat
deriving DecidableEq, Repr

/-- What the first byte of a sequence announces. -/
inductive Lead where
  | single
  | longer (pending : Pending)
  | malformed

/-- The announcement of a first byte. The range of the second byte rules out overlong forms,
surrogates and code points beyond the last. -/
def Lead.of (b : UInt8) : Lead :=
  if b < 0x80 then .single
  else if b < 0xC2 then .malformed
  else if b < 0xE0 then .longer ⟨1, 0x80, 0xBF, b.toNat % 32⟩
  else if b = 0xE0 then .longer ⟨2, 0xA0, 0xBF, 0⟩
  else if b = 0xED then .longer ⟨2, 0x80, 0x9F, 13⟩
  else if b < 0xF0 then .longer ⟨2, 0x80, 0xBF, b.toNat % 16⟩
  else if b = 0xF0 then .longer ⟨3, 0x90, 0xBF, 0⟩
  else if b < 0xF4 then .longer ⟨3, 0x80, 0xBF, b.toNat % 8⟩
  else if b = 0xF4 then .longer ⟨3, 0x80, 0x8F, 4⟩
  else .malformed

/-- The decoder: the sequence that has begun, and the chunks before it, last first. A malformed
part is `none`. -/
structure Decoder where
  pending : Option Pending
  chunks : List (Option Char)

/-- The decoder before the first byte. -/
def Decoder.start : Decoder :=
  ⟨none, []⟩

/-- Takes the first byte of a sequence. -/
def Decoder.lead (chunks : List (Option Char)) (b : UInt8) : Decoder :=
  match Lead.of b with
  | .single => ⟨none, some (Char.ofNat b.toNat) :: chunks⟩
  | .longer pending => ⟨some pending, chunks⟩
  | .malformed => ⟨none, none :: chunks⟩

/-- Takes a byte. A byte that cannot continue the sequence that has begun ends it as a malformed
part, and starts anew. -/
def Decoder.step (d : Decoder) (b : UInt8) : Decoder :=
  match d.pending with
  | none => Decoder.lead d.chunks b
  | some p =>
    if p.low ≤ b && b ≤ p.high then
      let payload := p.payload * 64 + b.toNat % 64
      if p.missing ≤ 1 then ⟨none, some (Char.ofNat payload) :: d.chunks⟩
      else ⟨some ⟨p.missing - 1, 0x80, 0xBF, payload⟩, d.chunks⟩
    else Decoder.lead (none :: d.chunks) b

/-- The chunks at the end of the bytes, in order. A sequence that has begun is a malformed
part. -/
def Decoder.finish (d : Decoder) : List (Option Char) :=
  match d.pending with
  | none => d.chunks.reverse
  | some _ => (none :: d.chunks).reverse

/-- The characters of a byte sequence in order, with `none` for each maximal malformed part. -/
def chunks (bytes : List UInt8) : List (Option Char) :=
  (bytes.foldl Decoder.step .start).finish

/-- The replacement character, U+FFFD. -/
def replacement : Char := Char.ofNat 0xFFFD

/-- The text of a byte sequence, `none` if any part of it is malformed. -/
def decode? (bytes : List UInt8) : Option (List Char) :=
  (chunks bytes).mapM id

/-- The text of a byte sequence, with one replacement character for each maximal malformed
part. -/
def decodeLossy (bytes : List UInt8) : List Char :=
  (chunks bytes).map (·.getD replacement)

/-- The bytes of a text. -/
def encode (text : List Char) : List UInt8 :=
  text.flatMap String.utf8EncodeChar

end FleetWatch.Text.Utf8
