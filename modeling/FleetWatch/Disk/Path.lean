import FleetWatch.Text.Search
import FleetWatch.Text.Utf8

/-!
# Paths

Names of files as byte strings, with `/` between the names of directories. Joining does not
resolve `.` or `..`.

## Main Definitions

* `Path` — a path
* `Path.join` — a path relative to another
* `Path.names`, `Path.ofNames` — the names in a path, and the absolute path of names
* `Path.ofString`, `Path.display` — a path from text and as text
-/

namespace FleetWatch

open Text

/-- A path, which need not be text. -/
structure Path where
  bytes : List UInt8
deriving DecidableEq, Repr

namespace Path

/-- The byte between names. -/
def separator : UInt8 := 0x2F

/-- The path that a text names. -/
def ofString (text : String) : Path :=
  ⟨Utf8.encode text.toList⟩

/-- The path as text, with replacement characters for what is not text. -/
def display (path : Path) : String :=
  String.ofList (Utf8.decodeLossy path.bytes)

/-- A path that starts at the root. -/
def isAbsolute (path : Path) : Bool :=
  path.bytes.head? == some separator

/-- The second path as seen from the first. An absolute path stands for itself, and a separator
goes between the two where one is needed. -/
def join (base path : Path) : Path :=
  if path.isAbsolute || base.bytes.isEmpty then path
  else if base.bytes.getLast? == some separator then ⟨base.bytes ++ path.bytes⟩
  else ⟨base.bytes ++ separator :: path.bytes⟩

/-- The file with a given name in a directory. -/
def child (directory : Path) (name : List UInt8) : Path :=
  directory.join ⟨name⟩

/-- The names in a path. -/
def names (path : Path) : List (List UInt8) :=
  (segments separator path.bytes).filter fun name => !name.isEmpty

/-- The absolute path of a list of names. -/
def ofNames (names : List (List UInt8)) : Path :=
  ⟨separator :: (names.intersperse [separator]).flatten⟩

end Path

end FleetWatch
