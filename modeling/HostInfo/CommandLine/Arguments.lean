import HostInfo.Executable
import HostInfo.Numeral
import HostInfo.Platform
import HostInfo.Text.Cut

/-!
# Command-line arguments

Options may stand before and after the command. A value belongs to its option either after an
equals sign or as the next word, and is only looked at when the next option, flag or the end is
reached. Words and options that mean nothing are refused at once, without a look at a value that
is still waiting.
-/

namespace HostInfo.CommandLine

inductive Command where
  | memory
  | cpus
  | load
  | uptime
  | interfaces
  | executable (capacity : Nat)
  | title (change : Option String)
  | snapshot
deriving DecidableEq, Repr

/-- What the arguments ask for. -/
structure Invocation where
  roots : Cpu.Roots
  json : Bool
  /-- How often more output was asked for, at most 255. -/
  verbose : Nat
  quiet : Bool
  command : Option Command
deriving DecidableEq, Repr

/-- Why arguments do not make an invocation. -/
inductive UsageError where
  | unknownArgument
  | invalidCommand
  /-- A missing or empty value. -/
  | invalidValue
  | notANumber
  | surplusValue
  | repeated
  | help
  | version
deriving DecidableEq, Repr

/-! ## Names -/

/-- The commands by name, before their own options are known. -/
inductive CommandName where
  | memory
  | cpus
  | load
  | uptime
  | interfaces
  | executable
  | title
  | snapshot
deriving DecidableEq, Repr

def CommandName.ofWord? : String → Option CommandName
  | "memory" => some .memory
  | "cpus" => some .cpus
  | "load" => some .load
  | "uptime" => some .uptime
  | "interfaces" => some .interfaces
  | "exe" => some .executable
  | "title" => some .title
  | "snapshot" => some .snapshot
  | _ => none

/-- Options that take a value. -/
inductive ValueOption where
  | procPath
  | sysPath
  | capacity
  | set
deriving DecidableEq, Repr

inductive Flag where
  | json
  | verbose
  | quiet
  | help
  | version
deriving DecidableEq, Repr

/-- The words and options that are read before a command or after it. -/
structure Level where
  /-- The command whose options these are; none before a command. -/
  command : Option CommandName
  values : List (ValueOption × String)
  /-- An option that was met, with its value if that was met too. -/
  pending : Option (ValueOption × Option String)
  json : Bool
  quiet : Bool
  verbose : Option Nat

namespace Level

def new (command : Option CommandName) : Level := ⟨command, [], none, false, false, none⟩

/-- The option of that long name, if the level has it. -/
def valueOption? (level : Level) : String → Option ValueOption
  | "proc-path" => some .procPath
  | "sys-path" => some .sysPath
  | "capacity" => if level.command = some .executable then some .capacity else none
  | "set" => if level.command = some .title then some .set else none
  | _ => none

def longFlag? (level : Level) : String → Option Flag
  | "json" => some .json
  | "verbose" => some .verbose
  | "quiet" => some .quiet
  | "help" => some .help
  | "version" => if level.command = none then some .version else none
  | _ => none

def shortFlag? (level : Level) : Char → Option Flag
  | 'v' => some .verbose
  | 'q' => some .quiet
  | 'h' => some .help
  | 'V' => if level.command = none then some .version else none
  | _ => none

/-! ## Values and flags -/

/-- Takes a value. An option cannot be given twice, paths cannot be empty, and a capacity is a
64-bit number. -/
def store (level : Level) (o : ValueOption) (value : String) : Except UsageError Level :=
  if (level.values.lookup o).isSome then .error .repeated
  else match o with
    | .procPath | .sysPath => if value = "" then .error .invalidValue else .ok added
    | .capacity =>
      if (Numeral.uint64? value.toList).isNone then .error .notANumber else .ok added
    | .set => .ok added
where
  added : Level := { level with values := level.values ++ [(o, value)] }

/-- Settles the option that is waiting. -/
def settle (level : Level) : Except UsageError Level :=
  match level.pending with
  | none => .ok level
  | some (_, none) => .error .invalidValue
  | some (o, some value) => { level with pending := none }.store o value

/-- Whether the next word is the value of an option. -/
def awaits (level : Level) : Bool :=
  match level.pending with
  | some (_, none) => true
  | _ => false

def raise (level : Level) (f : Flag) : Except UsageError Level := do
  let level ← level.settle
  match f with
  | .json => if level.json then throw .repeated else return { level with json := true }
  | .quiet => if level.quiet then throw .repeated else return { level with quiet := true }
  | .verbose => return { level with verbose := some (min (level.verbose.getD 0 + 1) 255) }
  | .help => throw .help
  | .version => throw .version

/-- A word that starts with two hyphens, without them. -/
def long (level : Level) (word : List Char) : Except UsageError Level :=
  let (name, value) := match Text.cutFirst? '=' word with
    | some (name, value) => (String.ofList name, some (String.ofList value))
    | none => (String.ofList word, none)
  match level.valueOption? name, level.longFlag? name, value with
  | some o, _, some value => do (← level.settle).store o value
  | some o, _, none => do return { (← level.settle) with pending := some (o, none) }
  | none, some _, some _ => .error .surplusValue
  | none, some f, none => level.raise f
  | none, none, _ => .error .unknownArgument

/-- A word that starts with one hyphen, without it: one flag for each character. -/
def short (level : Level) : List Char → Except UsageError Level
  | [] => .ok level
  | c :: rest =>
    match level.shortFlag? c with
    | some f => do (← level.raise f).short rest
    | none => .error .unknownArgument

/-- What is wrong with a word that is no option and no command. -/
def refuse (level : Level) (afterHyphens : Bool) (word : String) : UsageError :=
  let isCommand := (CommandName.ofWord? word).isSome || word == "help"
  if level.command.isSome then .unknownArgument
  else if afterHyphens && isCommand then .unknownArgument
  else .invalidCommand

/-- Help on a command: the words are commands, of which none has commands of its own. -/
def helpOn : List String → UsageError
  | [] => .help
  | [word] => if (CommandName.ofWord? word).isSome || word == "help" then .help else .invalidCommand
  | _ => .invalidCommand

/-- Reads words up to the end. A command hands on to a level of its own; what waits before it is
settled afterwards. After two hyphens alone no word is an option. -/
def read (level : Level) (afterHyphens : Bool) :
    List String → Except UsageError (Level × Option Level)
  | [] => do return (← level.settle, none)
  | word :: rest =>
    if afterHyphens then .error (level.refuse true word)
    else
      let command := if level.awaits ∨ level.command.isSome then none
        else CommandName.ofWord? word
      match command with
      | some name => do
        let (below, _) ← (Level.new (some name)).read false rest
        return (← level.settle, some below)
      | none =>
        if !level.awaits && level.command.isNone && word == "help" then .error (helpOn rest)
        else match word.toList with
          | ['-', '-'] => level.read true rest
          | '-' :: '-' :: name => do (← level.long name).read false rest
          | '-' :: c :: flags => do (← level.short (c :: flags)).read false rest
          | _ =>
            match level.pending with
            | some (o, none) => { level with pending := some (o, some word) }.read false rest
            | _ => .error (level.refuse false word)

end Level

/-! ## The invocation -/

/-- The value given to an option of a command. -/
def Level.value? (level : Level) (o : ValueOption) : Option String := level.values.lookup o

/-- The command with its options. -/
def Level.toCommand (level : Level) : Option Command :=
  level.command.map fun
    | .memory => .memory
    | .cpus => .cpus
    | .load => .load
    | .uptime => .uptime
    | .interfaces => .interfaces
    | .executable =>
      .executable (((level.value? .capacity).bind fun s => Numeral.unsigned? s.toList).getD
        Executable.defaultCapacity)
    | .title => .title (level.value? .set)
    | .snapshot => .snapshot

/-- What is given after the command counts before what is given in front of it. -/
def Invocation.ofLevels (above : Level) (below : Option Level) : Invocation :=
  let path (o : ValueOption) (default : Path) : Path :=
    (((below.bind (·.value? o)).or (above.value? o)).map Path.ofString).getD default
  { roots := ⟨path .procPath Platform.defaultRoots.proc, path .sysPath Platform.defaultRoots.sys⟩
    json := above.json || below.any (·.json)
    verbose := ((below.bind (·.verbose)).or above.verbose).getD 0
    quiet := above.quiet || below.any (·.quiet)
    command := below.bind Level.toCommand }

def Invocation.ofWords (words : List String) : Except UsageError Invocation := do
  let (above, below) ← (Level.new none).read false words
  return .ofLevels above below

end HostInfo.CommandLine
