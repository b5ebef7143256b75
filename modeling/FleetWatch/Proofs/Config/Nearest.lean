import FleetWatch.Config.Discovery
import FleetWatch.Proofs.Text.Lines
import Mathlib.Data.List.Infix

/-!
# The nearest configuration

Which configuration is used, seen from a working directory. It is that of the innermost directory
around the working directory that holds a file of the right name, whatever this file is: if it
cannot be read, or is no configuration, then loading fails, and no other file is looked at. The
user's own file comes after all of these, and the defaults after that. If the working directory is
not known, then nothing is looked for, not even the user's own file.

## Main Definitions

* `Path.IsName` — the name of a file in a directory
* `Config.fileIn` — where the configuration of a directory is
* `Config.IsNearest` — the innermost directory that has a configuration

## Design Notes

A directory around another is one whose names begin those of the other, so the directories around a
working directory are the prefixes of its names, and the innermost of several is the longest of
them.
-/

namespace FleetWatch

open Text

/-! ### Directories around a directory -/

/-- The name of a file in a directory: it is not empty, and has no separator in it. -/
def Path.IsName (name : List UInt8) : Prop :=
  name ≠ [] ∧ Path.separator ∉ name

instance (name : List UInt8) : Decidable (Path.IsName name) :=
  inferInstanceAs (Decidable (_ ∧ _))

/-- The names of an absolute path are those of which it is made. -/
theorem Path.names_ofNames {names : List (List UInt8)} (proper : ∀ name ∈ names, IsName name) :
    (Path.ofNames names).names = names := by
  have joined : (Path.ofNames names).bytes =
      Path.separator :: List.intercalate [Path.separator] names := rfl
  rw [Path.names, joined, segments_cons_separator]
  cases names with
  | nil => rfl
  | cons first rest =>
      have parts := segments_intercalate Path.separator (List.cons_ne_nil first rest)
        fun name mem => (proper name mem).2
      rw [parts, List.filter_cons_of_neg (by simp), List.filter_eq_self]
      intro name mem
      simpa using (proper name mem).1

namespace Config

variable {disk : Disk} {names holder : List (List UInt8)}

/-- Where the configuration of a directory is, which is given by its names. -/
def fileIn (holder : List (List UInt8)) : Path :=
  (Path.ofNames holder).join fileName

/-- **The innermost directory that has a configuration**, of a working directory and the directories
around it. All others that have one are around it. -/
structure IsNearest (disk : Disk) (names holder : List (List UInt8)) : Prop where
  around : holder <+: names
  has : disk.has (fileIn holder) = true
  innermost : ∀ other, other <+: names → disk.has (fileIn other) = true → other <+: holder

/-- There is one innermost directory at most. -/
theorem IsNearest.unique {other : List (List UInt8)} (h : IsNearest disk names holder)
    (h' : IsNearest disk names other) : holder = other :=
  (h'.innermost holder h.around h.has).eq_of_length_le
    (h.innermost other h'.around h'.has).length_le

/-- The search outwards finds the configuration of the innermost directory, or there is none. -/
theorem find?_outward (disk : Disk) (names : List (List UInt8)) :
    (∃ holder, IsNearest disk names holder ∧
      ((Path.outward names.reverse).map (·.join fileName)).find? disk.has =
        some (fileIn holder)) ∨
    (∀ holder, holder <+: names → disk.has (fileIn holder) = false) ∧
      ((Path.outward names.reverse).map (·.join fileName)).find? disk.has = none := by
  induction names using List.reverseRecOn with
  | nil =>
      have here : (Path.outward [].reverse).map (·.join fileName) = [fileIn []] := rfl
      rw [here]
      cases has : disk.has (fileIn []) with
      | true =>
          refine Or.inl ⟨[], ⟨List.prefix_rfl, has, fun other around _ => around⟩, ?_⟩
          rw [List.find?_cons_of_pos has]
      | false =>
          refine Or.inr ⟨?_, ?_⟩
          · intro holder around
            rw [List.prefix_nil.mp around]
            exact has
          · rw [List.find?_cons_of_neg (by simp [has]), List.find?_nil]
  | append_singleton names name ih =>
      have here : (Path.outward (names ++ [name]).reverse).map (·.join fileName) =
          fileIn (names ++ [name]) :: (Path.outward names.reverse).map (·.join fileName) := by
        rw [List.reverse_concat, Path.outward, List.map_cons, List.reverse_cons,
          List.reverse_reverse, fileIn]
      rw [here]
      cases has : disk.has (fileIn (names ++ [name])) with
      | true =>
          refine Or.inl ⟨_, ⟨List.prefix_rfl, has, fun other around _ => around⟩, ?_⟩
          rw [List.find?_cons_of_pos has]
      | false =>
          -- Nothing here, so that only the directories around can have a configuration.
          rw [List.find?_cons_of_neg (by simp [has])]
          rcases ih with ⟨holder, nearest, found⟩ | ⟨nowhere, found⟩
          · refine Or.inl ⟨holder, ⟨?_, nearest.has, ?_⟩, found⟩
            · exact nearest.around.trans (List.prefix_append names [name])
            · intro other around hasOther
              rcases List.prefix_concat_iff.mp around with rfl | around
              · rw [has] at hasOther
                cases hasOther
              · exact nearest.innermost other around hasOther
          · refine Or.inr ⟨?_, found⟩
            intro holder around
            rcases List.prefix_concat_iff.mp around with rfl | around
            · exact has
            · exact nowhere holder around

/-! ### What is loaded -/

/-- A file that cannot be read fails with the cause. -/
theorem loadFile_of_readText_eq_error {path : Path} {cause : ReadError}
    (h : disk.readText path = .error cause) :
    loadFile disk path = .error (.unreadable path cause) := by
  rw [loadFile, h]

/-- A file that is no configuration fails too. -/
theorem loadFile_of_read?_eq_none {path : Path} {text : String} (h : disk.readText path = .ok text)
    (malformed : read? text = none) : loadFile disk path = .error (.malformed path) := by
  rw [loadFile, h]
  simp only [malformed]

/-- The search goes outwards first, and then to the user's own file. -/
theorem find?_candidates (disk : Disk) (env : Environment)
    (proper : ∀ name ∈ names, Path.IsName name) :
    (candidates env (.ofNames names)).find? disk.has =
      (((Path.outward names.reverse).map (·.join fileName)).find? disk.has).or
        ((globalFile? env).toList.find? disk.has) := by
  rw [candidates, Path.ancestors, Path.names_ofNames proper, List.find?_append]

/-- With a configuration around, the innermost is used. -/
theorem discover_of_isNearest (env : Environment) (proper : ∀ name ∈ names, Path.IsName name)
    (h : IsNearest disk names holder) :
    discover disk env (some (.ofNames names)) = loadFile disk (fileIn holder) := by
  have found : (candidates env (.ofNames names)).find? disk.has = some (fileIn holder) := by
    rcases find?_outward disk names with ⟨other, nearest, found⟩ | ⟨nowhere, -⟩
    · rw [find?_candidates disk env proper, found, Option.some_or, h.unique nearest]
    · have has := h.has
      rw [nowhere holder h.around] at has
      cases has
  rw [discover]
  simp only [found]

/-- Without a configuration around, only the user's own file is looked for. -/
theorem discover_of_nowhere (env : Environment) (proper : ∀ name ∈ names, Path.IsName name)
    (nowhere : ∀ holder, holder <+: names → disk.has (fileIn holder) = false) :
    discover disk env (some (.ofNames names)) =
      (((globalFile? env).toList.find? disk.has).map (loadFile disk)).getD (.ok {}) := by
  rcases find?_outward disk names with ⟨holder, nearest, -⟩ | ⟨-, found⟩
  · have has := nearest.has
    rw [nowhere holder nearest.around] at has
    cases has
  · simp only [discover, find?_candidates disk env proper, found, Option.none_or]
    cases (globalFile? env).toList.find? disk.has <;> rfl

/-- **The nearest configuration is used, and never one behind it.** From a working directory either
one innermost directory around it has a configuration, or none has. In the first case just that file
is loaded, and the fault of that file is the answer if it cannot be read or is no configuration. In
the second case the user's own file is loaded if it exists, and otherwise nothing is set. -/
theorem discover_nearest (disk : Disk) (env : Environment)
    (proper : ∀ name ∈ names, Path.IsName name) :
    ((∃ holder, IsNearest disk names holder) ∨
      ∀ holder, holder <+: names → disk.has (fileIn holder) = false) ∧
    (∀ holder, IsNearest disk names holder →
      discover disk env (some (.ofNames names)) = loadFile disk (fileIn holder) ∧
      (∀ cause, disk.readText (fileIn holder) = .error cause →
        discover disk env (some (.ofNames names)) =
          .error (.unreadable (fileIn holder) cause)) ∧
      ∀ text, disk.readText (fileIn holder) = .ok text → read? text = none →
        discover disk env (some (.ofNames names)) = .error (.malformed (fileIn holder))) ∧
    ((∀ holder, holder <+: names → disk.has (fileIn holder) = false) →
      (∀ path, globalFile? env = some path → disk.has path = true →
        discover disk env (some (.ofNames names)) = loadFile disk path) ∧
      ((∀ path, globalFile? env = some path → disk.has path = false) →
        discover disk env (some (.ofNames names)) = .ok {})) := by
  refine ⟨?_, ?_, ?_⟩
  · rcases find?_outward disk names with ⟨holder, nearest, -⟩ | ⟨nowhere, -⟩
    · exact Or.inl ⟨holder, nearest⟩
    · exact Or.inr nowhere
  · intro holder nearest
    have loaded := discover_of_isNearest env proper nearest
    refine ⟨loaded, ?_, ?_⟩
    · intro cause unreadable
      rw [loaded, loadFile_of_readText_eq_error unreadable]
    · intro text readable malformed
      rw [loaded, loadFile_of_read?_eq_none readable malformed]
  · intro nowhere
    have loaded := discover_of_nowhere env proper nowhere
    constructor
    · intro path isGlobal has
      rw [loaded, isGlobal, Option.toList_some, List.find?_cons_of_pos has, Option.map_some,
        Option.getD_some]
    · intro missing
      rw [loaded]
      cases isGlobal : globalFile? env with
      | none => rfl
      | some path =>
          rw [Option.toList_some, List.find?_cons_of_neg (by simp [missing path isGlobal]),
            List.find?_nil, Option.map_none, Option.getD_none]

/-- A directory in the place of a configuration, in `/a`. Neither the file at the root nor that of
the user is used in its stead, and what is in `/a/b` leads nowhere. -/
theorem discover_nearest_directory :
    let names := ["a", "b"].map fun name => Utf8.encode name.toList
    let env : Environment := ⟨[], some "/home"⟩
    let holder := names.take 1
    let files := [fileIn [], .ofString "/home/.config/fleet-dashboard/.dashboard.toml"]
    let epoch : FileTime := ⟨0, by decide, by decide⟩
    let disk : Disk :=
      { state? := fun path =>
          if path = fileIn holder then some ⟨.directory, epoch⟩
          else if path ∈ files then some ⟨.regular, epoch⟩
          else none
        read := fun path => if path = fileIn holder then .error .isDirectory else .ok []
        list? := fun _ => none }
    ((∀ name ∈ names, Path.IsName name) ∧ IsNearest disk names holder ∧
      disk.readText (fileIn holder) = .error .isDirectory) ∧
    (globalFile? env).map disk.has = some true ∧
    discover disk env (some (.ofString "/a/b")) =
      .error (.unreadable (.ofString "/a/.dashboard.toml") .isDirectory) := by
  intro names env holder files epoch disk
  have proper : ∀ name ∈ names, Path.IsName name := by decide +kernel
  have nearest : IsNearest disk names holder := by
    refine ⟨List.take_prefix 1 names, by decide +kernel, ?_⟩
    intro other around has
    rcases List.prefix_concat_iff.mp (show other <+: holder ++ [names[1]] from around) with
      rfl | around
    · exact absurd has (by decide +kernel)
    · exact around
  have unreadable : disk.readText (fileIn holder) = .error .isDirectory := by
    simp only [Disk.readText, disk, if_true]
  have working : Path.ofNames names = .ofString "/a/b" := by decide +kernel
  have place : fileIn holder = .ofString "/a/.dashboard.toml" := by decide +kernel
  obtain ⟨-, around, -⟩ := discover_nearest disk env proper
  have fails := (around holder nearest).2.1 .isDirectory unreadable
  rw [working, place] at fails
  exact ⟨⟨proper, nearest, unreadable⟩, by decide +kernel, fails⟩

/-! ### The user's own configuration -/

/-- **The user's own configuration is used if the working directory is known**, where there is no
configuration around it. If the working directory is not known, nothing is looked for and nothing is
set, so that file is as good as used only if it sets nothing. -/
theorem discover_eq_loadFile_iff (disk : Disk) (env : Environment)
    {directory : Option (List (List UInt8))} {path : Path}
    (proper : ∀ names, directory = some names → ∀ name ∈ names, Path.IsName name)
    (nowhere : ∀ names, directory = some names →
      ∀ holder, holder <+: names → disk.has (fileIn holder) = false)
    (isGlobal : globalFile? env = some path) (has : disk.has path = true) :
    (directory.isSome = true → discover disk env (directory.map .ofNames) = loadFile disk path) ∧
    (directory = none → discover disk env (directory.map .ofNames) = .ok {}) ∧
    (discover disk env (directory.map .ofNames) = loadFile disk path ↔
      directory.isSome = true ∨ loadFile disk path = .ok {}) := by
  cases directory with
  | none =>
      have unset : discover disk env (Option.map Path.ofNames none) = .ok {} := rfl
      refine ⟨fun known => absurd known Bool.false_ne_true, fun _ => unset, ?_⟩
      rw [unset, Option.isSome_none, or_iff_right Bool.false_ne_true, eq_comm]
  | some names =>
      have loaded :
          discover disk env (Option.map Path.ofNames (some names)) = loadFile disk path := by
        rw [Option.map_some, discover_of_nowhere env (proper names rfl) (nowhere names rfl),
          isGlobal, Option.toList_some, List.find?_cons_of_pos has, Option.map_some,
          Option.getD_some]
      exact ⟨fun _ => loaded, fun unknown => absurd unknown (Option.some_ne_none names),
        iff_of_true loaded (Or.inl rfl)⟩

/-- The user's own configuration is a directory. From `/a` this is reported, as none is nearer. -/
theorem discover_eq_loadFile_iff_directory :
    let names := ["a"].map fun name => Utf8.encode name.toList
    let env : Environment := ⟨[], some "/home"⟩
    let path := Path.ofString "/home/.config/fleet-dashboard/.dashboard.toml"
    let epoch : FileTime := ⟨0, by decide, by decide⟩
    let disk : Disk :=
      { state? := fun file => if file = path then some ⟨.directory, epoch⟩ else none
        read := fun file => .error (if file = path then .isDirectory else .notFound)
        list? := fun _ => none }
    ((∀ name ∈ names, Path.IsName name) ∧
      (∀ holder, holder <+: names → disk.has (fileIn holder) = false) ∧
      globalFile? env = some path ∧ disk.has path = true) ∧
    discover disk env (some (.ofNames names)) = .error (.unreadable path .isDirectory) := by
  intro names env path epoch disk
  have proper : ∀ name ∈ names, Path.IsName name := by decide +kernel
  have nowhere : ∀ holder, holder <+: names → disk.has (fileIn holder) = false := by
    have around : ∀ holder ∈ names.inits, disk.has (fileIn holder) = false := by decide +kernel
    exact fun holder mem => around holder ((List.mem_inits _ _).mpr mem)
  have isGlobal : globalFile? env = some path := by decide +kernel
  have has : disk.has path = true := by decide +kernel
  have unreadable : disk.readText path = .error .isDirectory := by
    simp only [Disk.readText, disk, if_true]
  have loaded : discover disk env (Option.map Path.ofNames (some names)) = loadFile disk path :=
    (discover_eq_loadFile_iff disk env (fun _ known => Option.some.inj known ▸ proper)
      (fun _ known => Option.some.inj known ▸ nowhere) isGlobal has).1 rfl
  rw [loadFile_of_readText_eq_error unreadable] at loaded
  exact ⟨⟨proper, nowhere, isGlobal, has⟩, loaded⟩

/-- **Without a working directory the user's own configuration is not looked for**, and a fault of
it goes unnoticed. -/
theorem not_forall_discover_eq_loadFile :
    ¬ ∀ (disk : Disk) (env : Environment) (directory : Option (List (List UInt8))) (path : Path),
      (∀ names, directory = some names → ∀ name ∈ names, Path.IsName name) →
      (∀ names, directory = some names →
        ∀ holder, holder <+: names → disk.has (fileIn holder) = false) →
      globalFile? env = some path → disk.has path = true →
      discover disk env (directory.map .ofNames) = loadFile disk path := by
  intro used
  let path := Path.ofString "/home/.config/fleet-dashboard/.dashboard.toml"
  let disk : Disk :=
    { state? := fun _ => some ⟨.directory, ⟨0, by decide, by decide⟩⟩
      read := fun _ => .error .isDirectory
      list? := fun _ => none }
  have isGlobal : globalFile? ⟨[], some "/home"⟩ = some path := by decide +kernel
  have unreadable : disk.readText path = .error .isDirectory := rfl
  have loaded := used disk _ none path (by simp) (by simp) isGlobal rfl
  rw [loadFile_of_readText_eq_error unreadable] at loaded
  cases loaded

end Config

end FleetWatch
