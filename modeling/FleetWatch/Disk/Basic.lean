import FleetWatch.Disk.Path
import FleetWatch.Time.Instant

/-!
# Disks

What a reader can learn about a file system at one moment: the state of a file, its bytes, and the
names in a directory. Links are followed.

## Main Definitions

* `FileState` — whether a path is a regular file or a directory, and its modification time
* `ReadError` — why a file cannot be read
* `Listing` — the names in a directory
* `Disk` — the answers to all questions
-/

namespace FleetWatch

/-- The kinds of files that are told apart. -/
inductive FileKind where
  | regular
  | directory
  | other
deriving DecidableEq, Repr

/-- What is known of a file without reading it. -/
structure FileState where
  kind : FileKind
  modified : FileTime
deriving DecidableEq, Repr

/-- Why a file cannot be read. -/
inductive ReadError where
  | notFound
  | notDirectory
  | isDirectory
  | tooManyLinks
  | nameTooLong
  | zeroByte
  | denied
  | notText
deriving DecidableEq, Repr

/-- A cause in words. -/
def ReadError.message : ReadError → String
  | .notFound => "No such file or directory (os error 2)"
  | .notDirectory => "Not a directory (os error 20)"
  | .isDirectory => "Is a directory (os error 21)"
  | .tooManyLinks => "Too many levels of symbolic links (os error 40)"
  | .nameTooLong => "File name too long (os error 36)"
  | .zeroByte => "file name contained an unexpected NUL byte"
  | .denied => "Permission denied (os error 13)"
  | .notText => "stream did not contain valid UTF-8"

/-- The names in a directory, in no particular order, each once. -/
structure Listing where
  names : List (List UInt8)
  nodup : names.Nodup

/-- A directory without files. -/
def Listing.empty : Listing :=
  ⟨[], List.nodup_nil⟩

/-- Adds a name at the front, unless it is there. -/
def Listing.insert (name : List UInt8) (listing : Listing) : Listing :=
  if h : name ∈ listing.names then listing
  else ⟨name :: listing.names, List.nodup_cons.2 ⟨h, listing.nodup⟩⟩

/-- The names of a list, each once. -/
def Listing.ofNames (names : List (List UInt8)) : Listing :=
  names.foldr Listing.insert .empty

/-- A file system at one moment. -/
structure Disk where
  state? : Path → Option FileState
  read : Path → Except ReadError (List UInt8)
  list? : Path → Option Listing

namespace Disk

/-- Whether a path leads to a file of any kind. -/
def has (disk : Disk) (path : Path) : Bool :=
  (disk.state? path).isSome

/-- The text of a file, which must be well-formed throughout. -/
def readText (disk : Disk) (path : Path) : Except ReadError String :=
  match disk.read path with
  | .error e => .error e
  | .ok bytes =>
    match Text.Utf8.decode? bytes with
    | none => .error .notText
    | some text => .ok (String.ofList text)

/-- The text of a document; one that cannot be read counts as missing. -/
def document? (disk : Disk) (path : Path) : Option String :=
  (disk.readText path).toOption

end Disk

end FleetWatch
