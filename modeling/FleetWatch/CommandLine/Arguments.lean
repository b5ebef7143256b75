import FleetWatch.Config.Environment
import FleetWatch.Text.DecimalDigit

/-!
# Arguments

The arguments of the command line: options that hold for all commands, a command, and its own
options. Options that hold for all commands may also stand after the command. An option's value
stands after it, after an equals sign, or directly after its letter. Some options have a variable
of the environment that stands in for them.

## Main Definitions

* `Command` — what is asked for
* `Invocation` — a command and the configuration it is to use
* `Parsed` — an invocation, a call for help, or neither
* `Invocation.read` — the meaning of arguments
-/

namespace FleetWatch

open Text

/-- What is asked for. -/
inductive Command where
  | serve (host : Option String) (port : Option Nat) (token : Option String)
  | activity (limit : Option Nat)
  | agents
  | snapshot
  | memory
  | health
deriving DecidableEq, Repr

/-- A command, and the path of the configuration file if one is given. -/
structure Invocation where
  config : Option String
  command : Command
deriving DecidableEq, Repr

/-- What arguments mean. -/
inductive Parsed (α : Type) where
  | meaning (value : α)
  | help
  | misuse

/-! ### Numbers -/

/-- A natural number with an optional plus sign, at most `max`. -/
def readCount? (max : Nat) (text : String) : Option Nat :=
  let digits :=
    match text.toList with
    | '+' :: rest => rest
    | cs => cs
  if !digits.isEmpty && digits.all Char.isDigit && asciiValue digits ≤ max then
    some (asciiValue digits)
  else none

/-- The number of a port, with an optional sign. -/
def readPort? (text : String) : Option Nat :=
  match text.toList with
  | '-' :: rest =>
    if !rest.isEmpty && rest.all Char.isDigit && asciiValue rest = 0 then some 0 else none
  | _ => readCount? 65535 text

/-- The largest limit of a feed. -/
def largestLimit : Nat := 18446744073709551615

/-! ### Options -/

/-- An option with a value: its name, its letter if it has one, and which values it takes. -/
structure ValueOption where
  name : String
  letter : Option Char
  accepts : String → Bool

/-- The option of the configuration file, which holds for all commands. -/
def configOption : ValueOption :=
  ⟨"config", some 'c', (· ≠ "")⟩

/-- The options of each command. -/
def commandOptions (command : String) : Option (List ValueOption) :=
  if command = "serve" then
    some
      [⟨"host", none, fun _ => true⟩, ⟨"port", some 'p', fun text => (readPort? text).isSome⟩,
        ⟨"api-token", none, fun _ => true⟩]
  else if command = "activity" then
    some [⟨"limit", some 'l', fun text => (readCount? largestLimit text).isSome⟩]
  else if command ∈ ["agents", "snapshot", "memory", "health"] then some []
  else none

/-- The options read so far on one level of the command line, and the option that waits for its
value. -/
structure Level where
  values : List (String × String)
  waiting : Option ValueOption

namespace Level

/-- No options. -/
def empty : Level :=
  ⟨[], none⟩

/-- The value of an option. -/
def value? (level : Level) (name : String) : Option String :=
  (level.values.find? (·.1 == name)).map (·.2)

/-- Gives an option its value, which it must take and which must be its first. -/
def give? (level : Level) (option : ValueOption) (value : String) : Option Level :=
  if option.accepts value && (level.value? option.name).isNone then
    some ⟨(option.name, value) :: level.values, none⟩
  else none

/-- Reads the letters after a dash: the letters of options without a value, and at the end an
option with its value or one that waits for it. -/
def letters (options : List ValueOption) (level : Level) : List Char → Parsed Level
  | [] => .meaning level
  | 'v' :: rest => letters options level rest
  | 'h' :: _ => .help
  | c :: rest =>
    match options.find? (·.letter == some c) with
    | none => .misuse
    | some option =>
      match rest with
      | [] => .meaning { level with waiting := some option }
      | '=' :: value =>
        match level.give? option (String.ofList value) with
        | some level => .meaning level
        | none => .misuse
      | value =>
        match level.give? option (String.ofList value) with
        | some level => .meaning level
        | none => .misuse

/-- Reads what follows two dashes: a name, and a value after an equals sign. -/
def name (options : List ValueOption) (level : Level) (text : List Char) : Parsed Level :=
  let name := String.ofList (text.takeWhile (· != '='))
  let value := (text.dropWhile (· != '=')).drop 1
  let hasValue := text.contains '='
  if name = "help" then if hasValue then .misuse else .help
  else if name = "verbose" then if hasValue then .misuse else .meaning level
  else
    match options.find? (·.name == name) with
    | none => .misuse
    | some option =>
      if hasValue then
        match level.give? option (String.ofList value) with
        | some level => .meaning level
        | none => .misuse
      else .meaning { level with waiting := some option }

/-- Reads arguments up to the first word that is neither an option nor a value. That word and
what follows it are left. Two dashes alone end the options, and nothing may follow them. -/
def scan (options : List ValueOption) (level : Level) :
    List String → Parsed (Level × List String)
  | [] => if level.waiting.isSome then .misuse else .meaning (level, [])
  | argument :: rest =>
    match argument.toList, level.waiting with
    | ['-', '-'], waiting =>
      if waiting.isNone && rest.isEmpty then .meaning (level, []) else .misuse
    | '-' :: '-' :: text, none =>
      match name options level text with
      | .meaning level => scan options level rest
      | .help => .help
      | .misuse => .misuse
    | '-' :: c :: cs, none =>
      match letters options level (c :: cs) with
      | .meaning level => scan options level rest
      | .help => .help
      | .misuse => .misuse
    | '-' :: _ :: _, some _ => .misuse
    | _, some option =>
      match level.give? option argument with
      | some level => scan options level rest
      | none => .misuse
    | _, none => .meaning (level, argument :: rest)

end Level

/-! ### Invocations -/

/-- The command of a name with its options, some of which the environment may give. -/
def Command.ofLevel? (env : Environment) (command : String) (level : Level) : Option Command :=
  if command = "serve" then do
    let port ←
      match (level.value? "port").or (env.get? "DASHBOARD_PORT") with
      | none => some none
      | some text => (readPort? text).map some
    some (.serve ((level.value? "host").or (env.get? "DASHBOARD_HOST")) port
      ((level.value? "api-token").or (env.get? "DASHBOARD_API_TOKEN")))
  else if command = "activity" then
    some (.activity ((level.value? "limit").bind (readCount? largestLimit)))
  else if command = "agents" then some .agents
  else if command = "snapshot" then some .snapshot
  else if command = "memory" then some .memory
  else if command = "health" then some .health
  else none

namespace Invocation

/-- The path of the configuration file: the one given after the command, before it, or by the
environment. The environment must not give an empty one, unless it is overruled on both levels. -/
def config? (env : Environment) (outer inner : Level) : Parsed (Option String) :=
  match inner.value? "config", outer.value? "config", env.get? "DASHBOARD_CONFIG" with
  | some path, some _, _ => .meaning (some path)
  | _, _, some "" => .misuse
  | inner, outer, given => .meaning ((inner.or outer).or given)

/-- The meaning of the arguments of a command, after those before it. -/
def ofCommand (env : Environment) (outer : Level) (command : String) (arguments : List String) :
    Parsed Invocation :=
  match commandOptions command with
  | none => .misuse
  | some options =>
    match Level.scan (configOption :: options) .empty arguments with
    | .help => .help
    | .misuse => .misuse
    | .meaning (_, _ :: _) => .misuse
    | .meaning (inner, []) =>
      match config? env outer inner, Command.ofLevel? env command inner with
      | .meaning config, some command => .meaning ⟨config, command⟩
      | _, _ => .misuse

/-- The meaning of a call for help on the commands of given names. -/
def help : List String → Parsed Invocation
  | [] => .help
  | [command] => if (commandOptions command).isSome || command = "help" then .help else .misuse
  | _ => .misuse

/-- The meaning of the arguments of the command line. -/
def read (env : Environment) (arguments : List String) : Parsed Invocation :=
  match Level.scan [configOption] .empty arguments with
  | .help => .help
  | .misuse => .misuse
  | .meaning (_, []) => .misuse
  | .meaning (outer, command :: rest) =>
    if command = "help" then help rest else ofCommand env outer command rest

end Invocation

end FleetWatch
