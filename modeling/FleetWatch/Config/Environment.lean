import FleetWatch.Disk.Path
import FleetWatch.Text.Alphanumeric
import FleetWatch.Text.Search

/-!
# Environments

The variables of a process, and the paths that name them: `$name` and `${name}` stand for
the value of a variable, `${name:-value}` has a value for where the variable is not set, two
dollar signs stand for one, and a tilde at the start stands for the home directory.

## Main Definitions

* `Environment` — the variables, and the home directory of the account
* `Environment.get?` — the value of a variable
* `Environment.substitute?` — a text with the values of its variables
* `Environment.expand` — the path that a setting names
* `Environment.configDir?` — the directory of the user's configuration files
-/

namespace FleetWatch

open Text

/-- The variables of a process with their values, and the home directory that its account has. -/
structure Environment where
  entries : List (String × String)
  accountHome : Option String
deriving DecidableEq, Repr

namespace Environment

/-- A name and its value as one text. -/
def line (pair : String × String) : List Char :=
  pair.1.toList ++ '=' :: pair.2.toList

/-- The value of a variable: what follows the name and an equals sign in the first line that
starts with these. A name with an equals sign of its own reaches into a value, and the empty name
has no value. -/
def get? (env : Environment) (name : String) : Option String :=
  let start := name.toList ++ ['=']
  if name = "" then none
  else
    ((env.entries.map line).find? start.isPrefixOf).map fun text =>
      String.ofList (text.drop start.length)

/-- The home directory: that of the variable, or of the account if the variable is empty or not
set. -/
def home? (env : Environment) : Option String :=
  match env.get? "HOME" with
  | some home => if home = "" then env.accountHome else some home
  | none => env.accountHome

/-- A text with the home directory for a tilde that is its first part. -/
def withHome (env : Environment) (text : List Char) : List Char :=
  match text with
  | '~' :: rest =>
    if rest.isEmpty || rest.head? == some '/' then
      match env.home? with
      | some home => home.toList ++ rest
      | none => text
    else text
  | _ => text

/-! ### Variables -/

/-- A character of a variable's name that needs no braces. -/
def isNameChar (c : Char) : Bool :=
  isAlphanumeric c || c == '_'

/-- The part of a text before `:-`, and the part after it, if it is there. -/
def splitDefault : List Char → List Char × Option (List Char)
  | ':' :: '-' :: rest => ([], some rest)
  | c :: rest =>
    let (name, value) := splitDefault rest
    (c :: name, value)
  | [] => ([], none)

/-- The name of a variable and its default, from between the braces. Without a name there is no
default. -/
def bracedName (inside : List Char) : List Char × Option (List Char) :=
  match splitDefault inside with
  | ([], some _) => (inside, none)
  | split => split

/-- The value of a variable, or its default. -/
def value? (env : Environment) (name : List Char) (default : Option (List Char)) :
    Option (List Char) :=
  match env.get? (String.ofList name) with
  | some value => some value.toList
  | none => default

/-- What a dollar sign stands for, given what follows it, and how many characters after the sign
belong to it. -/
def reference? (env : Environment) (rest : List Char) : Option (List Char × Nat) :=
  match rest with
  | '\x7b' :: tail =>
    let inside := tail.takeWhile (· != '\x7d')
    if inside.length < tail.length then do
      let (name, default) := bracedName inside
      let value ← env.value? name default
      some (value, inside.length + 2)
    else some (['$', '\x7b'], 1)
  | '$' :: _ => some (['$'], 1)
  | _ =>
    let name := rest.takeWhile isNameChar
    if name.isEmpty then some (['$'], 0)
    else do
      let value ← env.value? name none
      some (value, name.length)

/-- A text with the values of its variables, after some characters that are to be skipped; `none`
if a variable has no value. The values are not searched for variables. -/
def substituteFrom (env : Environment) : (skip : Nat) → List Char → Option (List Char)
  | _, [] => some []
  | skip + 1, _ :: cs => substituteFrom env skip cs
  | 0, c :: cs =>
    if c == '$' then do
      let (value, length) ← env.reference? cs
      let rest ← substituteFrom env length cs
      some (value ++ rest)
    else do
      let rest ← substituteFrom env 0 cs
      some (c :: rest)

/-- A text with the values of its variables, `none` if a variable has no value. -/
def substitute? (env : Environment) (text : List Char) : Option (List Char) :=
  env.substituteFrom 0 text

/-- A text with its variables and its tilde replaced. A tilde that comes from a variable is left
as it is, and so are all variables if one of them has no value. -/
def expandText (env : Environment) (raw : List Char) : List Char :=
  match env.substitute? raw with
  | none => env.withHome raw
  | some text => if ['~'].isPrefixOf raw then env.withHome text
    else text

/-- The path that a setting names. -/
def expand (env : Environment) (raw : String) : Path :=
  .ofString (String.ofList (env.expandText raw.toList))

/-! ### Directories -/

/-- The directory of the user's configuration files: that of the variable if it is absolute, or
else one in the home directory. -/
def configDir? (env : Environment) : Option Path :=
  let named := (env.get? "XDG_CONFIG_HOME").map Path.ofString
  match named.filter Path.isAbsolute with
  | some path => some path
  | none => env.home?.map fun home => (Path.ofString home).join (.ofString ".config")

end Environment

end FleetWatch
