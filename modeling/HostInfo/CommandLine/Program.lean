import HostInfo.CommandLine.Run
import HostInfo.Log.Filter

/-!
# The whole program

From the words of the command line to what is written and the exit code. Log lines and the last
line about a failure go to the standard error.
-/

namespace HostInfo.CommandLine

/-- What a run of the program writes, and its exit code. -/
structure Written where
  code : UInt32
  output : String
  /-- Lines of the standard error. -/
  errors : List String

/-- The program's own name and version. -/
def versionText : String := "platinfo 0.1.0\n"

def usageText : String :=
  "Usage: platinfo [OPTIONS] [COMMAND]\n\n" ++
  "Commands: memory, cpus, load, uptime, interfaces, exe, title, snapshot, help\n" ++
  "Options: --proc-path <PROC_PATH>, --sys-path <SYS_PATH>, --json, -v/--verbose, -q/--quiet, " ++
  "-h/--help, -V/--version\n"

/-- What is said about arguments that are no invocation. -/
def UsageError.message : UsageError → String
  | .unknownArgument => "error: unexpected argument"
  | .invalidCommand => "error: unrecognized subcommand"
  | .invalidValue => "error: a value is required"
  | .notANumber => "error: invalid value: not a whole number"
  | .surplusValue => "error: unexpected value"
  | .repeated => "error: an argument cannot be used multiple times"
  | .help => ""
  | .version => ""

/-- Help and version are answers, all else is an error with code 2. -/
def UsageError.written : UsageError → Written
  | .help => ⟨0, usageText, []⟩
  | .version => ⟨0, versionText, []⟩
  | e => ⟨2, "", [e.message]⟩

/-- Runs the program under the name `argument0`; `setting` is the text of the log filter. -/
def program {σ : Type} [OperatingSystem σ] (argument0 : String) (words : List String)
    (setting : String) (timing : Timing) (files : Files) (os : σ) : Written × σ :=
  match Invocation.ofWords words with
  | .error e => (e.written, os)
  | .ok invocation =>
    let filter := Log.filterFor setting invocation.verbose invocation.quiet
    let session := Session.fresh.setUpTitle argument0
    let (p, session) :=
      Platform.attach invocation.roots (OperatingSystem.answers os) session
    let outcome := (invocation.command.getD .snapshot).run invocation.json timing p files session os
    let events := .configured invocation.roots :: Log.ofAttach p ++ outcome.events
    let lines := Log.Filter.complaints setting ++
      (events.filter filter.admits).map Log.Event.text
    match outcome.result with
    | .ok () => (⟨0, outcome.output, lines⟩, outcome.os)
    | .error (.failure f) =>
      (⟨1, outcome.output, lines ++ ["platinfo: " ++ f.message]⟩, outcome.os)
    | .error .undated =>
      (⟨101, outcome.output, lines ++ ["platinfo: no date for the last start"]⟩, outcome.os)

end HostInfo.CommandLine
