import FleetWatch.Toml.Scalar
import FleetWatch.Toml.Table

/-!
# Reading TOML

A document is a sequence of lines: blank ones, headers of tables, and entries under keys. The
reader refuses a document as a whole if any part of it is not as the format demands.

## Main Definitions

* `Toml.scanValue` — one value
* `Toml.read?` — the table of a document
-/

namespace FleetWatch.Toml

/-! ### Keys -/

/-- A character of a key without quotation marks. -/
def isBareKey (c : Char) : Bool :=
  c.isAlphanum || c == '-' || c == '_'

/-- Takes one part of a key. -/
def simpleKey : Scan String := do
  match ← Scan.peek with
  | some '"' => quotedLine '"'
  | some '\'' => quotedLine '\''
  | _ =>
    let name ← Scan.many isBareKey
    ensure !name.isEmpty
    return String.ofList name

/-- Takes one part of a key with the white space around it. -/
def spacedKey : Scan String := do
  spaces
  let name ← simpleKey
  spaces
  return name

/-- Takes further parts of a key, each after a point. -/
def keyTail : (limit : Nat) → Scan (List String)
  | 0 => failure
  | limit + 1 => do
    if (← Scan.peek) == some '.' then
      Scan.char '.'
      let name ← spacedKey
      return name :: (← keyTail limit)
    else return []

/-- Takes a dotted key: the parts before the last, and the last. -/
def key : Scan (List String × String) := do
  let first ← spacedKey
  let rest ← keyTail (depthLimit - 1)
  match (first :: rest).reverse with
  | last :: before => return (before.reverse, last)
  | [] => failure

/-! ### Values -/

/-- Takes the items of an array up to its end, given how an item is read. A comma may stand after
the last. -/
def arrayItems (item : Scan Toml) : (limit : Nat) → Scan (List Toml)
  | 0 => failure
  | limit + 1 => do
    skipLines
    if (← Scan.peek) == some ']' then
      Scan.char ']'
      return []
    else
      let first ← item
      skipLines
      if (← Scan.peek) == some ',' then
        Scan.char ','
        return first :: (← arrayItems item limit)
      else
        Scan.char ']'
        return [first]

/-- Takes an entry of a table, given how a value is read, and adds it. -/
def entry (value : Scan Toml) (target : Table) : Scan Table := do
  let (path, name) ← key
  Scan.char '='
  spaces
  StateT.lift (target.assign? path name (← value))

/-- Takes the entries of an inline table up to its end. No comma may stand after the last. -/
def inlineEntries (value : Scan Toml) : (limit : Nat) → Table → Scan Table
  | 0, _ => failure
  | limit + 1, target => do
    let target ← entry value target
    spaces
    if (← Scan.peek) == some ',' then
      Scan.char ','
      inlineEntries value limit target
    else
      Scan.char '\x7d'
      return target

/-- Takes an inline table. -/
def inlineTable (value : Scan Toml) : Scan Toml := do
  Scan.char '\x7b'
  spaces
  if (← Scan.peek) == some '\x7d' then
    Scan.char '\x7d'
    return .table []
  else
    let target ← inlineEntries value (← get).length .opened
    return target.toToml

/-- Takes a value, given how the values inside an array or inline table are read, if there may be
any. -/
def valueOf (inner : Option (Scan Toml)) : Scan Toml := do
  match ← Scan.peek with
  | some '"' => return .text (← quoted '"')
  | some '\'' => return .text (← quoted '\'')
  | some 't' =>
    Scan.word ['t', 'r', 'u', 'e']
    return .bool true
  | some 'f' =>
    Scan.word ['f', 'a', 'l', 's', 'e']
    return .bool false
  | some '[' =>
    let item ← StateT.lift inner
    Scan.char '['
    return .array (← arrayItems item ((← get).length + 1))
  | some '\x7b' => inlineTable (← StateT.lift inner)
  | _ => scanNumber

/-- Takes a value with at most `depth` arrays and inline tables inside each other. -/
def valueWithin : (depth : Nat) → Scan Toml
  | 0 => valueOf none
  | depth + 1 => valueOf (some (valueWithin depth))

/-- Takes a value. -/
def scanValue : Scan Toml :=
  valueWithin (depthLimit - 1)

/-! ### Documents -/

/-- A document as far as it is read: its tables, and the key of the header that the entries
belong to. -/
structure Document where
  root : Table
  header : List String

/-- Takes the key between the brackets of a header. -/
def headerKey (opening closing : List Char) : Scan (List String × String) := do
  Scan.word opening
  let path ← key
  Scan.word closing
  trailing
  return path

/-- Takes a header. -/
def header (document : Document) : Scan Document := do
  if ['[', '['].isPrefixOf (← get) then
    let (path, name) ← headerKey ['[', '['] [']', ']']
    let root ← StateT.lift (document.root.openRow? path name)
    return ⟨root, path ++ [name]⟩
  else
    let (path, name) ← headerKey ['['] [']']
    let root ← StateT.lift (document.root.open? path name)
    return ⟨root, path ++ [name]⟩

/-- Takes an entry of the table whose header was read last. -/
def line (document : Document) : Scan Document := do
  let (path, name) ← key
  Scan.char '='
  spaces
  let value ← scanValue
  trailing
  let root ← StateT.lift
    (document.root.update? false (Table.assign? path name value) document.header)
  return { document with root := root }

/-- Takes a comment with the end of its line, the end of a line, a header, or an entry, and white
space after it. -/
def expression (document : Document) : Scan Document := do
  let document ←
    match ← Scan.peek with
    | some '#' => do
      comment
      lineEnd
      pure document
    | some '\n' => newline *> pure document
    | some '\r' => newline *> pure document
    | some '[' => header document
    | _ => line document
  spaces
  return document

/-- Takes expressions to the end of the text. -/
def expressions : (limit : Nat) → Document → Scan Document
  | 0, document => do
    if (← get).isEmpty then return document else failure
  | limit + 1, document => do
    if (← get).isEmpty then return document
    else expressions limit (← expression document)

/-- The table of a document, `none` if the document is not well formed. A mark of the byte order
at its start does not count. -/
def read? (source : String) : Option Toml := do
  let cs := source.toList
  let cs := if cs.head? == some '\uFEFF' then cs.drop 1 else cs
  let scan : Scan Document := do
    spaces
    expressions cs.length ⟨.opened, []⟩
  let document ← scan.toEnd cs
  some document.root.toToml

end FleetWatch.Toml
