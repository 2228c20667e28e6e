import HostInfo.FieldScan
import HostInfo.Text.Blank
import HostInfo.Text.Cut

/-!
# The status line of a process

One line holds the process id, the command in parentheses and then fields parted by blanks. The
command may hold any characters, blanks and parentheses among them, so it starts after the first
opening parenthesis and ends at the last closing one that a space follows. The 26 fields from the
state to the start of the stack must all read; what follows them is not looked at.
-/

namespace HostInfo

structure StatLine where
  pid : UInt32
  command : String
  state : Char
  parent : Int32
  /-- Ticks spent in user and in kernel mode. -/
  userTicks : UInt64
  systemTicks : UInt64
  threads : Int64
  startTime : UInt64
  /-- Size of the address space, in bytes. -/
  virtualBytes : UInt64
  /-- Resident set, in pages. -/
  residentPages : UInt64
deriving DecidableEq, Repr

namespace StatLine

/-- The fields after the command. -/
def scan (pid : UInt32) (command : String) : FieldScan StatLine := do
  let state ← .character "state"
  let parent ← .int32 "ppid"
  .skip Numeral.int32? ["pgrp", "session", "tty_nr", "tpgid"]
  .skip Numeral.uint32? ["flags"]
  .skip Numeral.uint64? ["minflt", "cminflt", "majflt", "cmajflt"]
  let userTicks ← .uint64 "utime"
  let systemTicks ← .uint64 "stime"
  .skip Numeral.int64? ["cutime", "cstime", "priority", "nice"]
  let threads ← .int64 "num_threads"
  .skip Numeral.int64? ["itrealvalue"]
  let startTime ← .uint64 "starttime"
  let virtualBytes ← .uint64 "vsize"
  let residentPages ← .uint64 "rss"
  .skip Numeral.uint64? ["rsslim", "startcode", "endcode", "startstack"]
  return { pid, command, state, parent, userTicks, systemTicks, threads, startTime,
           virtualBytes, residentPages }

def ofChars (s : List Char) : Except FormatError StatLine :=
  match Text.cutFirst? '(' (Text.trimEnd s) with
  | none => .error .noCommand
  | some (before, rest) =>
    match Numeral.uint32? (Text.trim before) with
    | none => .error .badPid
    | some pid =>
      match Text.cutLast? [')', ' '] rest with
      | none => .error .openCommand
      | some (command, fields) => (scan pid (String.ofList command)).runOn fields

def ofText (text : String) : Except FormatError StatLine := ofChars text.toList

end StatLine

end HostInfo
