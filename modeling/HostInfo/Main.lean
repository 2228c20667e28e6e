import HostInfo.CommandLine.Program
import HostInfo.Os.Texts

/-!
# The command line

Reads what a run can ask for from the host, runs the program on it, and writes what the program
wrote. A new name of the process is given to the system afterwards.
-/

namespace HostInfo

/-- A number that was negated on its way, as some calls hand it on, and the number itself. -/
def errorNumber (n : UInt32) : Nat := n.toInt32.toInt.natAbs

/-- The number of a failed call. -/
def SystemError.ofIO : IO.Error → SystemError
  | .noFileOrDirectory _ n _ | .permissionDenied _ n _ | .inappropriateType _ n _
  | .invalidArgument _ n _ | .resourceExhausted _ n _ | .noSuchThing _ n _
  | .resourceBusy n _ | .unsupportedOperation n _ | .otherError n _ | .hardwareFault n _
  | .unsatisfiedConstraints n _ | .illegalOperation n _ | .interrupted _ n _ =>
    .number (errorNumber n)
  | e => .custom .other (toString e)

/-- Files that were read beforehand. -/
structure Loaded where
  texts : List (Path × Except SystemError String)
  links : List (Path × Except SystemError Path)

def Loaded.files (l : Loaded) : Files where
  readText path := (l.texts.lookup path).getD (.error .noEntry)
  readLink path := (l.links.lookup path).getD (.error .noEntry)

def readBytes (name : String) : IO (Except SystemError (List UInt8)) := do
  try return .ok (← IO.FS.readBinFile name).toList
  catch e => return .error (.ofIO e)

def readText (path : Path) : IO (Path × Except SystemError String) := do
  let text ← readBytes path.display
  return (path, text.bind fun bytes =>
    match Utf8.decode? bytes with
    | some text => .ok text
    | none => .error .notText)

/-- The target of a link, followed to its end. -/
def readLink (path : Path) : IO (Path × Except SystemError Path) := do
  try
    let target ← IO.FS.realPath path.display
    return (path, .ok (.ofString target.toString))
  catch e => return (path, .error (.ofIO e))

/-- All files that a command below these roots can ask for. -/
def load (roots : Cpu.Roots) : IO Loaded := do
  let texts ← [roots.infoPath, roots.countersPath, roots.proc.join "self/stat"].mapM readText
  let link ← readLink (roots.proc.join "self/exe")
  let files := (Loaded.mk texts []).files
  let frequencies ← match Cpu.cores (Cpu.info roots files) roots files with
    | .ok cores => (cores.map fun t => roots.frequencyPath t.core).mapM readText
    | .error _ => pure []
  return ⟨texts ++ frequencies, [link]⟩

/-- A text of the kernel, empty where there is none. -/
def kernelText (name : String) : IO String := do
  match (← readText (.ofString name)).2 with
  | .ok text => return text
  | .error _ => return ""

def kernelTexts : IO Kernel.Texts := do
  return {
    auxiliary := (← readBytes "/proc/self/auxv").toOption.getD []
    memory := ← kernelText "/proc/meminfo"
    uptime := ← kernelText "/proc/uptime"
    load := ← kernelText "/proc/loadavg"
    nanoseconds := ← IO.monoNanosNow }

/-- The name under which the program was started. -/
def argument0 : IO String := do
  let words := (← readBytes "/proc/self/cmdline").toOption.getD []
  return Utf8.decodeLossy (words.takeWhile (· ≠ 0))

/-- The present moment in milliseconds since 1970: the start of the system and its uptime. -/
def presentMillis (t : Kernel.Texts) : IO Int := do
  let line := (Text.lines (← kernelText "/proc/stat").toList).findSome?
    (Text.stripStart? "btime ".toList)
  let start := (line.bind Numeral.natural?).getD 0
  let up := (Kernel.Texts.numbers t.uptime).headD 0
  return start * 1000 + (up * 1000).toInt

def runProgram (words : List String) : IO UInt32 := do
  let texts ← kernelTexts
  let now ← presentMillis texts
  let loaded ← match CommandLine.Invocation.ofWords words with
    | .ok invocation => load invocation.roots
    | .error _ => pure ⟨[], []⟩
  let microseconds := ((← IO.monoNanosNow) - texts.nanoseconds) / 1000
  let setting := (← IO.getEnv "RUST_LOG").getD ""
  let (written, kernel) := CommandLine.program (← argument0) words setting ⟨now, microseconds⟩
    loaded.files (Kernel.mk texts.os none)
  match kernel.name with
  | some name =>
    try IO.FS.writeFile "/proc/self/comm" name
    catch _ => pure ()
  | none => pure ()
  for line in written.errors do
    IO.eprintln line
  IO.print written.output
  return written.code

end HostInfo

def main (words : List String) : IO UInt32 := HostInfo.runProgram words
