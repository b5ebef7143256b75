import FleetWatch.Disk.Volume
import Mathlib.Data.List.Nodup

/-!
# Disks in another order

A directory is listed in no particular order. Two disks that differ in nothing but the order of
their listings are what one volume looks like when the files of its directories are put in another
order: every path leads to the same file, over links and up and down, and only the listings are
told apart.

## Main Definitions

* `Disk.Reorders` — two disks that differ in the order of their listings at most
* `Volume.Node.Reorders` — two trees that differ in the order of their directories at most

## Design Notes

A walk does not see the order in which a directory holds its files, so walks of two such trees
keep to the same names (`Volume.walkFrom_reorders`). The nodes they come to are not equal, as they
may be directories in different orders, but they are again two such trees.
-/

namespace FleetWatch

/-! ### Listings -/

/-- **Two disks that differ in the order of their listings at most.** -/
structure Disk.Reorders (disk disk' : Disk) : Prop where
  state?_eq : ∀ path, disk.state? path = disk'.state? path
  read_eq : ∀ path, disk.read path = disk'.read path
  list?_perm : ∀ path,
    Option.Rel (fun listing listing' => listing.names.Perm listing'.names)
      (disk.list? path) (disk'.list? path)

theorem Listing.mem_insert {name other : List UInt8} {listing : Listing} :
    other ∈ (listing.insert name).names ↔ other = name ∨ other ∈ listing.names := by
  unfold insert
  split
  · next mem =>
    refine ⟨Or.inr, ?_⟩
    rintro (rfl | mem')
    · exact mem
    · exact mem'
  · exact List.mem_cons

/-- A listing of names holds these. -/
theorem Listing.mem_ofNames {name : List UInt8} {names : List (List UInt8)} :
    name ∈ (ofNames names).names ↔ name ∈ names := by
  induction names with
  | nil => exact Iff.rfl
  | cons first names ih =>
      have step : ofNames (first :: names) = (ofNames names).insert first := rfl
      rw [step, mem_insert, ih, List.mem_cons]

/-- Names in another order are listed in another order. -/
theorem Listing.perm_ofNames {names names' : List (List UInt8)} (h : names.Perm names') :
    (ofNames names).names.Perm (ofNames names').names := by
  refine (List.perm_ext_iff_of_nodup (ofNames names).nodup (ofNames names').nodup).mpr ?_
  intro name
  rw [mem_ofNames, mem_ofNames, h.mem_iff]

namespace Volume

/-! ### Trees -/

/-- **Two trees that differ in the order of their directories at most**, in any number of
directories and at any depth. -/
inductive Node.Reorders : Node → Node → Prop
  | refl (node : Node) : Reorders node node
  | directory {files files' : List (List UInt8 × Node)} {modified : FileTime}
      (names : (files.map (·.1)).Perm (files'.map (·.1)))
      (children : ∀ name node node', child? name (.directory files modified) = some node →
        child? name (.directory files' modified) = some node' → Reorders node node') :
      Reorders (.directory files modified) (.directory files' modified)

namespace Node

/-- A directory has a file of each of its names. -/
theorem isSome_child?_iff {name : List UInt8} {files : List (List UInt8 × Node)}
    {modified : FileTime} :
    (child? name (.directory files modified)).isSome ↔ name ∈ files.map (·.1) := by
  simp [child?]

/-- What is found under a name is one of the files. -/
theorem mem_of_child? {name : List UInt8} {files : List (List UInt8 × Node)} {modified : FileTime}
    {node : Node} (found : child? name (.directory files modified) = some node) :
    (name, node) ∈ files := by
  obtain ⟨⟨name', node⟩, first, rfl⟩ := Option.map_eq_some_iff.mp found
  have same := List.find?_some first
  obtain rfl : name' = name := eq_of_beq same
  exact List.mem_of_find?_eq_some first

namespace Reorders

variable {node node' : Node}

/-- A directory with its files in another order, if no name stands for two of them. -/
theorem of_perm {files files' : List (List UInt8 × Node)} {modified : FileTime}
    (perm : files.Perm files') (distinct : (files.map (·.1)).Nodup) :
    Reorders (.directory files modified) (.directory files' modified) := by
  refine .directory (perm.map _) ?_
  intro name node node' found found'
  have mem' := perm.mem_iff.mpr (mem_of_child? found')
  have same := List.inj_on_of_nodup_map distinct (mem_of_child? found) mem' rfl
  rw [(Prod.mk.inj same).2]
  exact .refl node'

/-- In another order, a directory has a file of a name just if it had one. -/
theorem child? (h : node.Reorders node') (name : List UInt8) :
    Option.Rel Reorders (node.child? name) (node'.child? name) := by
  cases h with
  | refl =>
      cases node.child? name with
      | none => exact .none
      | some child => exact .some (.refl child)
  | @directory files files' modified names children =>
      have there : (Node.child? name (.directory files modified)).isSome ↔
          (Node.child? name (.directory files' modified)).isSome := by
        rw [isSome_child?_iff, isSome_child?_iff, names.mem_iff]
      have related := children name
      generalize Node.child? name (.directory files modified) = found at there related ⊢
      generalize Node.child? name (.directory files' modified) = found' at there related ⊢
      cases found with
      | none =>
          obtain rfl : found' = none := by simpa using there
          exact .none
      | some child =>
          obtain ⟨child', rfl⟩ := Option.isSome_iff_exists.mp (there.mp rfl)
          exact .some (related child child' rfl rfl)

theorem at? (names : List (List UInt8)) (h : node.Reorders node') :
    Option.Rel Reorders (node.at? names) (node'.at? names) := by
  induction names generalizing node node' with
  | nil => exact .some h
  | cons name names ih =>
      have below := h.child? name
      unfold Node.at?
      generalize node.child? name = child at below
      generalize node'.child? name = child' at below
      cases below with
      | none => exact .none
      | some related => exact ih related

/-- Two such trees are two directories of one time, or the same file or link. -/
theorem eq_or_directories (h : node.Reorders node') :
    (∃ files files' modified, node = .directory files modified ∧
      node' = .directory files' modified) ∨
    node = node' ∧ ∀ files modified, node ≠ .directory files modified := by
  cases h with
  | refl =>
      cases node with
      | directory files modified => exact Or.inl ⟨files, files, modified, rfl, rfl⟩
      | file bytes modified => exact Or.inr ⟨rfl, fun _ _ same => Node.noConfusion same⟩
      | link target => exact Or.inr ⟨rfl, fun _ _ same => Node.noConfusion same⟩
  | @directory files files' modified => exact Or.inl ⟨files, files', modified, rfl, rfl⟩

end Reorders

end Node

/-! ### Walks -/

/-- Two walks that end in the same way: in the same error, at the same missing name, or at the same
names, with a tree and another order of it. -/
inductive Alike : Except ReadError Place → Except ReadError Place → Prop
  | error (e : ReadError) : Alike (.error e) (.error e)
  | missing (names : List (List UInt8)) : Alike (.ok (.missing names)) (.ok (.missing names))
  | existing (names : List (List UInt8)) {node node' : Node} (h : node.Reorders node') :
      Alike (.ok (.existing names node)) (.ok (.existing names node'))

/-- **A walk does not see the order of directories.** The proof goes along the walk, so by the links
that may still be followed and by the names that are left. -/
theorem walkFrom_reorders {root root' : Node} (h : root.Reorders root') (follow : Bool)
    (links : Nat) (names todo : List (List UInt8)) :
    Alike (walkFrom root follow links names todo) (walkFrom root' follow links names todo) := by
  unfold walkFrom
  have found := h.at? names
  generalize root.at? names = node at found
  generalize root'.at? names = node' at found
  cases found with
  | none => exact .error .notFound
  | @some node node' related =>
    cases todo with
    | nil => exact .existing names related
    | cons name rest =>
      obtain ⟨files, files', modified, rfl, rfl⟩ | ⟨rfl, noDirectory⟩ := related.eq_or_directories
      · dsimp only
        -- The name of a directory in itself, that of the one around it, and one that is too long
        -- are not looked up.
        split
        · exact walkFrom_reorders h follow links names rest
        split
        · exact walkFrom_reorders h follow links names.dropLast rest
        split
        · exact .error .nameTooLong
        have below := related.child? name
        generalize Node.child? name (.directory files modified) = child at below
        generalize Node.child? name (.directory files' modified) = child' at below
        cases below with
        | none =>
          dsimp only
          split
          · exact .missing (names ++ [name])
          · exact .error .notFound
        | @some child child' below =>
          cases below with
          | directory => exact walkFrom_reorders h follow links (names ++ [name]) rest
          | refl =>
            cases child with
            | file | directory => exact walkFrom_reorders h follow links (names ++ [name]) rest
            | link target =>
              dsimp only
              split
              · exact .existing (names ++ [name]) (.refl _)
              · cases links with
                | zero => exact .error .tooManyLinks
                | succ links => exact walkFrom_reorders h follow links _ (steps target ++ rest)
      · cases node with
        | directory files modified => exact absurd rfl (noDirectory files modified)
        | file | link => exact .error .notDirectory
termination_by (links, todo.length)

/-- A path leads to the same file of two such volumes, or to a directory in another order. -/
theorem node_reorders {volume volume' : Volume} (h : volume.root.Reorders volume'.root)
    (directory : List (List UInt8)) (path : Path) :
    (∃ e, volume.node directory path = .error e ∧ volume'.node directory path = .error e) ∨
    ∃ node node', volume.node directory path = .ok node ∧
      volume'.node directory path = .ok node' ∧ node.Reorders node' := by
  have alike : Alike (volume.walk true directory path) (volume'.walk true directory path) := by
    unfold walk
    split
    · exact .error .zeroByte
    split
    · exact .error .notFound
    split
    · exact .error .nameTooLong
    · exact walkFrom_reorders h true linkLimit _ (steps path)
  unfold node
  generalize volume.walk true directory path = ended at alike
  generalize volume'.walk true directory path = ended' at alike
  cases alike with
  | error e => exact Or.inl ⟨e, rfl, rfl⟩
  | missing names => exact Or.inl ⟨.notFound, rfl, rfl⟩
  | existing names related => exact Or.inr ⟨_, _, rfl, rfl, related⟩

/-- **A volume in another order is a disk that lists in another order**, and is the same disk
otherwise. -/
theorem disk_reorders {volume volume' : Volume} (h : volume.root.Reorders volume'.root)
    (directory : List (List UInt8)) :
    (volume.disk directory).Reorders (volume'.disk directory) where
  state?_eq path := by
    obtain ⟨e, ended, ended'⟩ | ⟨node, node', ended, ended', related⟩ :=
      node_reorders h directory path
    · simp only [disk, ended, ended']
    · simp only [disk, ended, ended']
      obtain ⟨files, files', modified, rfl, rfl⟩ | ⟨rfl, -⟩ := related.eq_or_directories <;> rfl
  read_eq path := by
    obtain ⟨e, ended, ended'⟩ | ⟨node, node', ended, ended', related⟩ :=
      node_reorders h directory path
    · simp only [disk, ended, ended']
    · simp only [disk, ended, ended']
      obtain ⟨files, files', modified, rfl, rfl⟩ | ⟨rfl, -⟩ := related.eq_or_directories <;> rfl
  list?_perm path := by
    obtain ⟨e, ended, ended'⟩ | ⟨node, node', ended, ended', related⟩ :=
      node_reorders h directory path
    · simp only [disk, ended, ended']
      exact .none
    · simp only [disk, ended, ended']
      cases related with
      | refl =>
          cases node with
          | directory files modified => exact .some (List.Perm.refl _)
          | file | link => exact .none
      | directory names => exact .some (Listing.perm_ofNames names)

end Volume

end FleetWatch
