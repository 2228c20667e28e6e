import HostInfo.Platform

/-!
# Snapshots

All queries at one moment. A query that fails leaves its section empty and its reason among the
errors; it does not keep the others from being asked.
-/

namespace HostInfo

structure Snapshot where
  title : String
  executable : Option String
  memory : Option ProcessMemory
  cpus : List Cpu.Record
  freeMemory : Option Binary64
  totalMemory : Option Binary64
  uptime : Binary64
  processAge : Binary64
  load : Option Load
  interfaces : Option Interface.Table
  /-- One entry for each failed query, in the order of the queries. -/
  errors : List String
deriving DecidableEq

namespace Snapshot

/-- The entry among the errors for the section of that name. -/
def complaint {α : Type} (name : String) : Except Failure α → List String
  | .ok _ => []
  | .error e => [name ++ ": " ++ e.message]

def capture (p : Platform) (host : Host) (session : Session) : Snapshot :=
  let executable := p.executable host Executable.defaultCapacity
  let memory := p.processMemory host
  let cpus := p.cpus host
  let freeMemory := p.freeMemory host
  let totalMemory := p.totalMemory host
  let load := p.load host
  let interfaces := p.interfaces host
  { title := session.title
    executable := executable.toOption
    memory := memory.toOption
    cpus := cpus.toOption.getD []
    freeMemory := freeMemory.toOption
    totalMemory := totalMemory.toOption
    uptime := p.uptime host
    processAge := p.processAge host session
    load := load.toOption
    interfaces := interfaces.toOption
    errors :=
      complaint "executable path" executable ++ complaint "process memory" memory ++
      complaint "cpus" cpus ++ complaint "free memory" freeMemory ++
      complaint "total memory" totalMemory ++ complaint "load average" load ++
      complaint "interfaces" interfaces }

def toJson (s : Snapshot) : Json :=
  .object [("title", .string s.title),
    ("executable_path", .optional .string s.executable),
    ("memory", .optional ProcessMemory.toJson s.memory),
    ("cpus", .array (s.cpus.map Cpu.Record.toJson)),
    ("free_memory", .optional .number s.freeMemory),
    ("total_memory", .optional .number s.totalMemory),
    ("uptime", .number s.uptime),
    ("process_age", .number s.processAge),
    ("load_average", .optional Load.toJson s.load),
    ("interfaces", .optional Interface.Table.toJson s.interfaces),
    ("errors", .array (s.errors.map .string))]

end Snapshot

end HostInfo
