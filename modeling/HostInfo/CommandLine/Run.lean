import HostInfo.CommandLine.Arguments
import HostInfo.Json.Printer
import HostInfo.Log.Event
import HostInfo.Report

/-!
# Running a command

A run goes step by step: it asks queries, changes the title, logs, and writes. It stops at the
first step that fails, and what was done by then stays done. The answer is shown as indented JSON
or as a report.
-/

namespace HostInfo.CommandLine

/-- Why a command does not come to its end. -/
inductive Stop where
  | failure (f : Failure)
  /-- The system started at a moment without a date. -/
  | undated
deriving DecidableEq, Repr

/-- The moment of a run, in milliseconds since the start of 1970, and how long a snapshot took. -/
structure Timing where
  now : Int
  microseconds : Nat

/-- What a run has done so far, and the state that it works on. -/
structure Progress (σ : Type) where
  /-- What was written to the standard output. -/
  output : String
  events : List Log.Event
  session : Session
  os : σ

/-- What a run leaves behind. -/
structure Outcome (σ : Type) extends Progress σ where
  /-- Whether the run came to its end. -/
  result : Except Stop Unit

/-- What is shown by a run that came to its end. -/
def Outcome.shown {σ : Type} (o : Outcome σ) : Except Stop String := o.result.map fun _ => o.output

/-! ## Steps -/

/-- A part of a run. Where it stops, the progress is that at this point. -/
abbrev Run (σ : Type) := ExceptT Stop (StateM (Progress σ))

namespace Run

variable {σ : Type}

/-- A failed query stops the run. -/
def ask {α : Type} (query : Except Failure α) : Run σ α :=
  match query with
  | .ok a => pure a
  | .error e => throw (.failure e)

/-- A report for which a date is missing stops the run. -/
def dated (report : Option String) : Run σ String :=
  match report with
  | some text => pure text
  | none => throw .undated

def write (text : String) : Run σ Unit := modify fun s => { s with output := s.output ++ text }

def log (events : List Log.Event) : Run σ Unit :=
  modify fun s => { s with events := s.events ++ events }

/-- The title as it is now. -/
def currentTitle : Run σ String := return (← get).session.title

/-- Changes the title. What that does to the session is done also where the system refuses. -/
def setTitle [OperatingSystem σ] (title : String) : Run σ Unit := do
  let s ← get
  let (result, session, os) := s.session.setTitle title s.os
  set { s with session, os }
  ask result

end Run

namespace Command

open Run

variable {σ : Type}

/-- An answer as JSON. -/
def showJson (j : Json) : String := j.prettyText ++ "\n"

/-- The answer in the form asked for. -/
def form (json : Bool) (value : Json) (text : String) : String :=
  if json then showJson value else text

/-! ## Commands -/

def runMemory (json : Bool) (p : Platform) (host : Host) : Run σ Unit := do
  let process ← ask (p.processMemory host)
  let free ← ask (p.freeMemory host)
  let total ← ask (p.totalMemory host)
  write <| form json
    (.object [("process", process.toJson), ("free_memory", .number free),
      ("total_memory", .number total)])
    (Report.memory process free total)

def runCpus (json : Bool) (p : Platform) (host : Host) : Run σ Unit := do
  log (Log.ofCpus p host)
  let records ← ask (p.cpus host)
  write <| form json (.array (records.map Cpu.Record.toJson)) (Report.cpus records)

def runLoad (json : Bool) (p : Platform) (host : Host) : Run σ Unit := do
  let load ← ask (p.load host)
  write <| form json load.toJsonArray (Report.load load ++ "\n")

def runUptime (json : Bool) (p : Platform) (host : Host) (session : Session) (now : Int) :
    Run σ Unit :=
  let uptime := p.uptime host
  let age := p.processAge host session
  if json then
    write (showJson (.object [("uptime", .number uptime), ("process_age", .number age),
      ("process_start_time", .optional .number session.start)]))
  else do
    let text ← dated (Report.uptime now uptime age)
    write (text ++ "\n")

def runInterfaces (json : Bool) (p : Platform) (host : Host) : Run σ Unit := do
  let table ← ask (p.interfaces host)
  write <| form json table.toJson (Report.interfaces table)

def runExecutable (json : Bool) (p : Platform) (host : Host) (capacity : Nat) : Run σ Unit := do
  let path ← ask (p.executable host capacity)
  write <| form json (.string path) (path ++ "\n")

def showTitle (json : Bool) : Run σ Unit := do
  let current ← currentTitle
  write <| form json (.string current) (current ++ "\n")

def changeTitle [OperatingSystem σ] (json : Bool) (change : String) : Run σ Unit := do
  setTitle change
  log [.titleChanged change]
  showTitle json

def runSnapshot (json : Bool) (timing : Timing) (p : Platform) (host : Host) (session : Session) :
    Run σ Unit := do
  let s := Snapshot.capture p host session
  log (Log.ofSnapshot p host timing.microseconds s ++ s.errors.map .queryFailed)
  if json then write (showJson s.toJson)
  else
    let text ← dated (Report.snapshot timing.now s)
    write text

/-- All steps of a command. -/
def steps [OperatingSystem σ] (command : Command) (json : Bool) (timing : Timing) (p : Platform)
    (host : Host) (session : Session) : Run σ Unit :=
  match command with
  | .memory => runMemory json p host
  | .cpus => runCpus json p host
  | .load => runLoad json p host
  | .uptime => runUptime json p host session timing.now
  | .interfaces => runInterfaces json p host
  | .executable capacity => runExecutable json p host capacity
  | .title none => showTitle json
  | .title (some change) => changeTitle json change
  | .snapshot => runSnapshot json timing p host session

/-- Runs a command against files and a system in state `os`. -/
def run [OperatingSystem σ] (command : Command) (json : Bool) (timing : Timing) (p : Platform)
    (files : Files) (session : Session) (os : σ) : Outcome σ :=
  let (result, progress) :=
    command.steps json timing p ⟨files, OperatingSystem.answers os⟩ session ⟨"", [], session, os⟩
  { progress with result }

end Command

end HostInfo.CommandLine
