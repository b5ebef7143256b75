import FleetWatch.Toml.Basic

/-!
# Tables under construction

A document builds its tables entry by entry. A table can come about in three ways: by a header of
its own, on the way to the header of a table inside it, or by a dotted key. The three are kept
apart, since a table may be opened by a header once, and only if no header opened it and no dotted
key made it; and a dotted key may only add to tables that no header opened.

## Main Definitions

* `Toml.Node` — an entry of a table under construction
* `Toml.Table` — a table under construction
* `Toml.Table.assign?` — adds an entry under a dotted key
* `Toml.Table.open?`, `Toml.Table.openRow?` — what a header does
* `Toml.Table.toToml` — the finished table
-/

namespace FleetWatch.Toml

/-- An entry of a table under construction: a finished value, a table, or the tables of an array,
last first. A table is implicit if no header has opened it, and dotted if a dotted key has made
it. -/
inductive Node where
  | value (value : Toml)
  | table (implicit dotted : Bool) (entries : List (String × Node))
  | rows (rows : List (List (String × Node)))

/-- A table under construction. -/
structure Table where
  implicit : Bool
  dotted : Bool
  entries : List (String × Node)

namespace Table

/-- A table that a header opens. -/
def opened : Table :=
  ⟨false, false, []⟩

/-- The entry under a key. -/
def find? (key : String) (table : Table) : Option Node :=
  (table.entries.find? (·.1 == key)).map (·.2)

/-- Puts an entry under a key, in the place of one that is there. -/
def put (key : String) (node : Node) (table : Table) : Table :=
  if (table.find? key).isSome then
    { table with
      entries := table.entries.map fun entry => if entry.1 == key then (key, node) else entry }
  else { table with entries := table.entries ++ [(key, node)] }

/-- The table as an entry. -/
def toNode (table : Table) : Node :=
  .table table.implicit table.dotted table.entries

/-- Changes the table at a path. Tables that are missing on the way are made, and of an array of
tables the last is taken. With `dotted`, the path is part of a dotted key. -/
def update? (dotted : Bool) (change : Table → Option Table) : List String → Table → Option Table
  | [], target => change target
  | key :: path, target =>
    match target.find? key with
    | none => do
      let child ← update? dotted change path ⟨true, dotted, []⟩
      some (target.put key child.toNode)
    | some (.table implicit isDotted entries) =>
      if dotted && !implicit then none
      else do
        let child ← update? dotted change path ⟨implicit, isDotted, entries⟩
        some (target.put key child.toNode)
    | some (.rows (row :: rows)) => do
      let child ← update? dotted change path ⟨false, false, row⟩
      some (target.put key (.rows (child.entries :: rows)))
    | some (.rows []) => none
    | some (.value _) => none

/-- Adds an entry under a dotted key, given as the parts before the last and the last. The table
that takes it must be made by the key, if the key has several parts. -/
def assign? (path : List String) (key : String) (value : Toml) (table : Table) : Option Table :=
  table |> update? true (fun target =>
    if target.dotted == path.isEmpty || (target.find? key).isSome then none
    else some (target.put key (.value value))) path

/-- Opens the table of a header, given as the parts of its key before the last and the last. -/
def open? (path : List String) (key : String) (table : Table) : Option Table :=
  table |> update? false (fun parent =>
    match parent.find? key with
    | none => some (parent.put key opened.toNode)
    | some (.table true false entries) => some (parent.put key (.table false false entries))
    | some _ => none) path

/-- Opens a further table of an array of tables. -/
def openRow? (path : List String) (key : String) (table : Table) : Option Table :=
  table |> update? false (fun parent =>
    match parent.find? key with
    | none => some (parent.put key (.rows [[]]))
    | some (.rows rows) => some (parent.put key (.rows ([] :: rows)))
    | some _ => none) path

end Table

mutual

/-- The value of an entry. -/
def Node.toToml : Node → Toml
  | .value value => value
  | .table _ _ entries => .table (entriesToToml entries)
  | .rows rows => .array (rowsToToml rows).reverse
termination_by structural node => node

/-- The values of entries. -/
def entriesToToml : List (String × Node) → List (String × Toml)
  | [] => []
  | (key, node) :: entries => (key, node.toToml) :: entriesToToml entries
termination_by structural entries => entries

/-- The values of the tables of an array, in the order in which they are kept. -/
def rowsToToml : List (List (String × Node)) → List Toml
  | [] => []
  | row :: rows => .table (entriesToToml row) :: rowsToToml rows
termination_by structural rows => rows

end

/-- The finished table. -/
def Table.toToml (table : Table) : Toml :=
  .table (entriesToToml table.entries)

end FleetWatch.Toml
