import HostInfo.Snapshot

/-!
# Log events

What the queries have to say about themselves. An event has a level, belongs to a part of the
program, and is written as one line: the level, a message, and fields with their values.
-/

namespace HostInfo.Log

/-- The most urgent level first. -/
inductive Level where
  | error
  | warn
  | info
  | debug
  | trace
deriving DecidableEq, Repr

namespace Level

def name : Level → String
  | .error => "ERROR"
  | .warn => "WARN"
  | .info => "INFO"
  | .debug => "DEBUG"
  | .trace => "TRACE"

/-- The greater, the less urgent. -/
def verbosity : Level → Nat
  | .error => 1
  | .warn => 2
  | .info => 3
  | .debug => 4
  | .trace => 5

/-- The name, five characters wide. -/
def label (level : Level) : String :=
  String.ofList (List.replicate (5 - level.name.length) ' ') ++ level.name

end Level

inductive Event where
  | configured (roots : Cpu.Roots)
  | sourceSelected (source : UptimeSource)
  | infoUnavailable (path : Path) (cause : SystemError)
  | countersUnavailable (path : Path) (cause : SystemError) (cores : Nat)
  | noFrequency (core : UInt32) (cause : Cpu.NoFrequency)
  | snapshotCaptured (microseconds failed : Nat)
  | titleChanged (title : String)
  | queryFailed (message : String)

namespace Event

def level : Event → Level
  | .noFrequency _ (.unreadable _) => .trace
  | .queryFailed _ => .warn
  | _ => .debug

/-- The part of the program that an event comes from. -/
def target : Event → String
  | .configured _ | .titleChanged _ | .queryFailed _ => "platinfo"
  | .sourceSelected _ => "platinfo_core::collector::system"
  | .snapshotCaptured .. => "platinfo_core::platform"
  | .infoUnavailable .. | .countersUnavailable .. | .noFrequency .. =>
    "platinfo_core::collector::procfs::cpu"

def message : Event → String
  | .configured _ => "config"
  | .sourceSelected _ => "selected uptime source"
  | .infoUnavailable .. => "cpuinfo unavailable"
  | .countersUnavailable .. => "cpu counters unavailable, reporting zero times"
  | .noFrequency _ (.unreadable _) => "no cpufreq max frequency"
  | .noFrequency _ (.garbled _) => "ignoring cpufreq max frequency"
  | .snapshotCaptured .. => "snapshot captured"
  | .titleChanged _ => "process title updated"
  | .queryFailed message => message

def fields : Event → List (String × String)
  | .configured roots => [("proc", roots.proc.display), ("sys", roots.sys.display)]
  | .sourceSelected source => [("source", source.name)]
  | .infoUnavailable path cause => [("path", path.display), ("error", cause.message)]
  | .countersUnavailable path cause cores =>
    [("path", path.display), ("error", cause.message), ("cores", toString cores)]
  | .noFrequency core (.unreadable cause) =>
    [("cpu", toString core), ("error", cause.message)]
  | .noFrequency core (.garbled cause) =>
    [("cpu", toString core), ("error", cause.describe)]
  | .snapshotCaptured microseconds failed =>
    [("elapsed_us", toString microseconds), ("failed", toString failed)]
  | .titleChanged title => [("title", title)]
  | .queryFailed _ => []

/-- The names of the fields, among which the message counts. -/
def fieldNames (e : Event) : List String := "message" :: e.fields.map Prod.fst

/-- Control characters that a terminal acts upon are written out in a message. -/
def escape (c : Char) : List Char :=
  if c = '\x1b' then "\\x1b".toList
  else if c = '\x07' then "\\x07".toList
  else if c = '\x08' then "\\x08".toList
  else if c = '\x0c' then "\\x0c".toList
  else if c = '\x7f' then "\\x7f".toList
  else if '\u0080' ≤ c ∧ c ≤ '\u009f' then
    ['\\', 'u', '\x7b'] ++ Nat.toDigits 16 c.toNat ++ ['\x7d']
  else [c]

/-- The line of an event. -/
def text (e : Event) : String :=
  e.level.label ++ " " ++ String.ofList (e.message.toList.flatMap escape) ++
    String.join (e.fields.map fun (name, value) => " " ++ name ++ "=" ++ value)

end Event

/-! ## Events of the queries -/

/-- A platform says which clock it uses. -/
def ofAttach (p : Platform) : List Event := [.sourceSelected p.source]

/-- Each source that could not be used is reported, the frequency files only if all else is
there. -/
def ofCpus (p : Platform) (host : Host) : List Event :=
  let info := Cpu.info p.roots host.files
  let infoEvents := match Cpu.readInfo p.roots host.files with
    | .ok _ => []
    | .error cause => [.infoUnavailable p.roots.infoPath cause]
  let counterEvents := match Cpu.readCounters p.roots host.files with
    | .ok _ => []
    | .error cause =>
      if info.cores = 0 then []
      else [.countersUnavailable p.roots.countersPath cause info.cores]
  let frequencyEvents := match Cpu.cores info p.roots host.files, host.os.clockTicks with
    | .ok cores, .ok _ => cores.filterMap fun ticks =>
      match Cpu.readFrequency p.roots host.files ticks.core with
      | .ok _ => none
      | .error cause => some (.noFrequency ticks.core cause)
    | _, _ => []
  infoEvents ++ counterEvents ++ frequencyEvents

def ofSnapshot (p : Platform) (host : Host) (microseconds : Nat) (s : Snapshot) : List Event :=
  ofCpus p host ++ [.snapshotCaptured microseconds s.errors.length]

end HostInfo.Log
