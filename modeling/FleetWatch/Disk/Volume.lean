import FleetWatch.Disk.Basic

/-!
# Volumes

A file system held in memory: a tree of directories, files and links. It answers the questions of
a disk, and can be changed.

A path is walked name by name from a directory. A link is walked as if its target stood in its
place, and at most forty links are followed on one walk.

## Main Definitions

* `Volume.Node` — a file, a directory or a link
* `Volume.walk` — the node that a path leads to
* `Volume.disk` — the answers of a volume, as seen from a directory
* `Volume.makeDirectories`, `Volume.write`, `Volume.touch`, `Volume.remove`, `Volume.rename`,
  `Volume.link` — the changes
-/

namespace FleetWatch

namespace Volume

/-- A file with its bytes, a directory with its files, or a link with its target. -/
inductive Node where
  | file (bytes : List UInt8) (modified : FileTime)
  | directory (files : List (List UInt8 × Node)) (modified : FileTime)
  | link (target : Path)

end Volume

/-- A file system held in memory, as the directory at its root. -/
structure Volume where
  root : Volume.Node

namespace Volume

/-- The start of 1970. -/
def epoch : FileTime :=
  ⟨0, by decide, by decide⟩

/-- A volume without files. -/
def empty : Volume :=
  ⟨.directory [] epoch⟩

/-! ### Walking -/

namespace Node

/-- The file of a name in a directory. -/
def child? (name : List UInt8) : Node → Option Node
  | .directory files _ => (files.find? (·.1 == name)).map (·.2)
  | _ => none

/-- The node under a list of names, without following links. -/
def at? : List (List UInt8) → Node → Option Node
  | [], node => some node
  | name :: names, node =>
    match node.child? name with
    | none => none
    | some child => at? names child

/-- The tree with the node under a list of names changed, made or taken away. -/
def change (f : Option Node → Option Node) : List (List UInt8) → Option Node → Option Node
  | [], node => f node
  | name :: names, some (.directory files modified) =>
    let others := files.filter (·.1 != name)
    match change f names ((files.find? (·.1 == name)).map (·.2)) with
    | some child => some (.directory (others ++ [(name, child)]) modified)
    | none => some (.directory others modified)
  | _ :: _, node => node

end Node

/-- Where a walk ends: at a node, or at a name that a directory does not have. The names lead
there from the root without links. -/
inductive Place where
  | existing (names : List (List UInt8)) (node : Node)
  | missing (names : List (List UInt8))

/-- The name of a directory in itself. -/
def here : List UInt8 := [0x2E]

/-- The name of a directory around another. -/
def parent : List UInt8 := [0x2E, 0x2E]

/-- The steps of a path. A separator at its end asks for a directory. -/
def steps (path : Path) : List (List UInt8) :=
  path.names ++ if path.bytes.getLast? == some Path.separator then [here] else []

/-- How many bytes a name may have. -/
def nameLimit : Nat := 255

/-- How many bytes a path must not have. -/
def pathLimit : Nat := 4096

/-- Walks from a directory. A link at the end of the path is followed on demand. -/
def walkFrom (root : Node) (follow : Bool) (links : Nat) (names : List (List UInt8))
    (todo : List (List UInt8)) : Except ReadError Place :=
  match root.at? names, todo with
  | none, _ => .error .notFound
  | some node, [] => .ok (.existing names node)
  | some (.directory files modified), name :: rest =>
    if name = here then walkFrom root follow links names rest
    else if name = parent then walkFrom root follow links names.dropLast rest
    else if nameLimit < name.length then .error .nameTooLong
    else
      match Node.child? name (.directory files modified) with
      | none => if rest.isEmpty then .ok (.missing (names ++ [name])) else .error .notFound
      | some (.link target) =>
        if rest.isEmpty && !follow then .ok (.existing (names ++ [name]) (.link target))
        else
          match links with
          | 0 => .error .tooManyLinks
          | links + 1 =>
            walkFrom root follow links (if target.isAbsolute then [] else names)
              (steps target ++ rest)
      | some _ => walkFrom root follow links (names ++ [name]) rest
  | some _, _ :: _ => .error .notDirectory
termination_by (links, todo.length)

/-- How many links one walk may follow. -/
def linkLimit : Nat := 40

/-- The place that a path leads to, as seen from a directory. The empty path leads nowhere, and
neither does one with a zero byte or with too many bytes. -/
def walk (volume : Volume) (follow : Bool) (directory : List (List UInt8)) (path : Path) :
    Except ReadError Place :=
  if 0 ∈ path.bytes then .error .zeroByte
  else if path.bytes.isEmpty then .error .notFound
  else if pathLimit ≤ path.bytes.length then .error .nameTooLong
  else
    walkFrom volume.root follow linkLimit (if path.isAbsolute then [] else directory) (steps path)

/-- The node that a path leads to, with links followed. -/
def node (volume : Volume) (directory : List (List UInt8)) (path : Path) : Except ReadError Node :=
  match volume.walk true directory path with
  | .ok (.existing _ node) => .ok node
  | .ok (.missing _) => .error .notFound
  | .error e => .error e

/-! ### Answers -/

/-- What is known of a node without reading it. -/
def Node.state? : Node → Option FileState
  | .file _ modified => some ⟨.regular, modified⟩
  | .directory _ modified => some ⟨.directory, modified⟩
  | .link _ => none

/-- The answers of a volume, as seen from a directory given by its names. -/
def disk (volume : Volume) (directory : List (List UInt8)) : Disk where
  state? path :=
    match volume.node directory path with
    | .ok node => node.state?
    | .error _ => none
  read path :=
    match volume.node directory path with
    | .ok (.file bytes _) => .ok bytes
    | .ok (.directory _ _) => .error .isDirectory
    | .ok (.link _) => .error .tooManyLinks
    | .error e => .error e
  list? path :=
    match volume.node directory path with
    | .ok (.directory files _) => some (.ofNames (files.map (·.1)))
    | _ => none

/-! ### Changes -/

/-- The volume with the node under a list of names changed. -/
def changed (volume : Volume) (names : List (List UInt8)) (f : Option Node → Option Node) :
    Volume :=
  ⟨(Node.change f names (some volume.root)).getD volume.root⟩

/-- Makes the directory of a path and those around it. Directories that are there are kept. -/
def makeDirectories (volume : Volume) (path : Path) : Except ReadError Volume :=
  go volume [] path.names
where
  /-- Makes the directories under some names that are there already. -/
  go (volume : Volume) (before : List (List UInt8)) :
      List (List UInt8) → Except ReadError Volume
    | [] => .ok volume
    | name :: rest =>
      match volume.walk true [] (.ofNames (before ++ [name])) with
      | .ok (.existing _ (.directory _ _)) => go volume (before ++ [name]) rest
      | .ok (.existing _ _) => .error .notDirectory
      | .ok (.missing place) =>
        go (volume.changed place fun _ => some (.directory [] epoch)) (before ++ [name]) rest
      | .error e => .error e

/-- Replaces the bytes of a file, given what they were, or makes the file. -/
def write (volume : Volume) (path : Path) (f : List UInt8 → List UInt8) (modified : FileTime) :
    Except ReadError Volume :=
  match volume.walk true [] path with
  | .ok (.missing names) => .ok (volume.changed names fun _ => some (.file (f []) modified))
  | .ok (.existing names (.file bytes _)) =>
    .ok (volume.changed names fun _ => some (.file (f bytes) modified))
  | .ok (.existing _ _) => .error .isDirectory
  | .error e => .error e

/-- Sets the modification time of a file or directory. -/
def touch (volume : Volume) (path : Path) (modified : FileTime) : Except ReadError Volume :=
  match volume.walk true [] path with
  | .ok (.existing names (.file bytes _)) =>
    .ok (volume.changed names fun _ => some (.file bytes modified))
  | .ok (.existing names (.directory files _)) =>
    .ok (volume.changed names fun _ => some (.directory files modified))
  | .ok _ => .error .notFound
  | .error e => .error e

/-- Takes away a file, a directory with all that is in it, or a link. -/
def remove (volume : Volume) (path : Path) : Except ReadError Volume :=
  match volume.walk false [] path with
  | .ok (.existing names _) => .ok (volume.changed names fun _ => none)
  | .ok (.missing _) => .error .notFound
  | .error e => .error e

/-- Moves a file, a directory or a link to another path, in the place of a file that is there. -/
def rename (volume : Volume) (source target : Path) : Except ReadError Volume :=
  match volume.walk false [] source, volume.walk false [] target with
  | .ok (.existing old node), .ok (.missing new) =>
    .ok ((volume.changed old fun _ => none).changed new fun _ => some node)
  | .ok (.existing old node), .ok (.existing new _) =>
    .ok ((volume.changed old fun _ => none).changed new fun _ => some node)
  | .ok (.missing _), _ => .error .notFound
  | .error e, _ => .error e
  | _, .error e => .error e

/-- Makes a link, where there is no file, directory or link yet. -/
def link (volume : Volume) (target path : Path) : Except ReadError Volume :=
  match volume.walk false [] path with
  | .ok (.missing names) => .ok (volume.changed names fun _ => some (.link target))
  | .ok (.existing _ _) => .error .denied
  | .error e => .error e

end Volume

end FleetWatch
