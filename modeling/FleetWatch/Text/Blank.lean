/-!
# White space

The Unicode property `White_Space` and the trimming of runs of it. The same class decides what
is a blank line of a log, what is cut from the ends of a text, and what separates the words of a
note.

## Main Definitions

* `isBlank` — a character with the property
* `allBlank` — a text of such characters only, the empty text included
* `trimStart`, `trimEnd`, `trim` — a text without the run at its start, its end, both
-/

namespace FleetWatch.Text

/-- A character with the Unicode property `White_Space`. -/
def isBlank (c : Char) : Bool :=
  let n := c.toNat
  (0x9 ≤ n && n ≤ 0xD) || n == 0x20 || n == 0x85 || n == 0xA0 || n == 0x1680 ||
    (0x2000 ≤ n && n ≤ 0x200A) || n == 0x2028 || n == 0x2029 || n == 0x202F || n == 0x205F ||
    n == 0x3000

/-- A text that holds nothing but white space. -/
def allBlank (text : List Char) : Bool :=
  text.all isBlank

/-- A text without the white space at its start. -/
def trimStart (text : List Char) : List Char :=
  text.dropWhile isBlank

/-- A text without the white space at its end. -/
def trimEnd (text : List Char) : List Char :=
  (text.reverse.dropWhile isBlank).reverse

/-- A text without the white space at its two ends. -/
def trim (text : List Char) : List Char :=
  trimEnd (trimStart text)

/-- A string without the white space at its two ends. -/
def trimmed (text : String) : String :=
  String.ofList (trim text.toList)

end FleetWatch.Text
