import HostInfo.Calendar
import HostInfo.Duration
import HostInfo.Snapshot
import HostInfo.Text.Column

/-!
# Reports for people

The text in which each answer is shown. A report that has to give the date of the last start has
no text where the calendar has no such date.
-/

namespace HostInfo.Report

def memory (process : ProcessMemory) (free total : Binary64) : String :=
  "process: rss " ++ Size.text .detail process.residentBytes ++
    ", virtual " ++ Size.text .detail process.virtualBytes ++ "\n" ++
  "system:  free " ++ Size.text .detail free.toUInt64 ++
    " of " ++ Size.text .detail total.toUInt64 ++ "\n"

/-- The line of the core at position `index`. -/
def cpu (index : Nat) (r : Cpu.Record) : String :=
  let time (ms : UInt64) := Text.padStart 7 (Duration.millisText ms)
  "cpu" ++ Text.padEnd 3 (toString index) ++ " " ++ Text.padStart 5 (toString r.speed) ++
    " MHz  user " ++ time r.times.user ++ " nice " ++ time r.times.nice ++
    " sys " ++ time r.times.system ++ " idle " ++ time r.times.idle ++
    " irq " ++ time r.times.irq ++ "  " ++ r.model ++ "\n"

/-- One line for each core, numbered from zero in their order. -/
def cpus (records : List Cpu.Record) : String :=
  String.join (records.mapIdx cpu)

def load (l : Load) : String := l.text

/-- How long the system and the process have been running, at the moment `now`. -/
def uptime (now : Int) (uptime processAge : Binary64) : Option String :=
  if uptime < 0 then some "uptime unavailable"
  else (bootTime? now uptime).map fun start =>
    "up " ++ Duration.text .detail uptime ++ " (since " ++ start.text ++ "), process age " ++
      Duration.text .detail processAge

def interfaceEntry (e : Interface.Entry) : String :=
  "  " ++ Text.padEnd 5 e.family.name ++ " " ++ e.address ++
    (if e.internal then " (internal)" else "") ++ "\n"

def interfaceRow (row : String × List Interface.Entry) : String :=
  row.1 ++ ":\n" ++ String.join (row.2.map interfaceEntry)

def interfaces (table : Interface.Table) : String :=
  String.join (table.rows.map interfaceRow)

/-- A part that is left out where its value is missing. -/
def optional {α : Type} (f : α → String) : Option α → String
  | some a => f a
  | none => ""

/-- The memory, shown only where all three values are there. -/
def snapshotMemory (s : Snapshot) : String :=
  match s.memory, s.freeMemory, s.totalMemory with
  | some process, some free, some total => memory process free total
  | _, _, _ => ""

def snapshot (now : Int) (s : Snapshot) : Option String :=
  (uptime now s.uptime s.processAge).map fun uptime =>
    "title:   " ++ s.title ++ "\n" ++
    optional (fun path => "exe:     " ++ path ++ "\n") s.executable ++
    uptime ++ "\n" ++
    optional (fun l => load l ++ "\n") s.load ++
    snapshotMemory s ++
    cpus s.cpus ++
    optional interfaces s.interfaces ++
    String.join (s.errors.map fun e => "error:   " ++ e ++ "\n")

end HostInfo.Report
