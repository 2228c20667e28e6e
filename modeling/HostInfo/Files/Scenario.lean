import HostInfo.Files.Fixture

/-!
# Sample hosts

Fixtures of two hosts: one with four cores, each with its own frequency file, and a virtual
machine with a single core and none. The status lines in them are those of an idle shell.
-/

namespace HostInfo.Scenario

/-- The fields of a status line from the state on. -/
def statusFields (pid : UInt32) (virtualBytes residentPages : UInt64) : List String :=
  let id := toString pid
  ["S", "1233", id, id, "34816", id, "4194304", "5000", "50000", "10", "20", "100", "50", "200",
   "100", "20", "0", "1", "0", "100000", toString virtualBytes, toString residentPages,
   "18446744073709551615", "94000000000000", "94000000100000", "140730000000000", "0", "0", "0",
   "65536", "3670020", "1266777851", "0", "0", "0", "17", "2", "0", "0", "5", "0", "0", "0", "0",
   "0", "0", "0", "0", "0", "0"]

/-- A status line with the given command and sizes. -/
def statusLine (pid : UInt32) (command : String) (virtualBytes residentPages : UInt64) : String :=
  toString pid ++ " (" ++ command ++ ") " ++
    String.intercalate " " (statusFields pid virtualBytes residentPages) ++ "\n"

/-! ## Four cores -/

/-- The block of one core in the list of processors. -/
def coreBlock (core : Nat) : String :=
  "processor\t: " ++ toString core ++ "\n" ++
  "vendor_id\t: GenuineIntel\n" ++
  "cpu family\t: 6\n" ++
  "model\t\t: 158\n" ++
  "model name\t: Intel(R) Core(TM) i7-8700 CPU @ 3.20GHz\n" ++
  "stepping\t: 10\n" ++
  "cpu MHz\t\t: " ++ toString (3192 + core * 100) ++ ".123\n" ++
  "cache size\t: 12288 KB\n" ++
  "flags\t\t: fpu vme de pse tsc msr pae mce cx8\n" ++
  "\n"

def fourCoreCounters : String :=
  "cpu  10000 500 3000 80000 1000 200 100 0 0 0\n" ++
  "cpu0 2500 125 750 20000 250 50 25 0 0 0\n" ++
  "cpu1 2600 130 760 19900 240 60 25 0 0 0\n" ++
  "cpu2 2400 120 740 20100 260 40 25 0 0 0\n" ++
  "cpu3 2500 125 750 20000 250 50 25 0 0 0\n" ++
  "intr 1000000 50 0 0 0 0 0 0 0 1 0 0 0 100 0 0 1000\n" ++
  "ctxt 500000\n" ++
  "btime 1700000000\n" ++
  "processes 10000\n" ++
  "procs_running 2\n" ++
  "procs_blocked 0\n"

def fourCores : Fixture :=
  let described := Fixture.empty
    |>.addText (.ofString "/proc/self/stat") (statusLine 4242 "node" 1073741824 12800)
    |>.addLink (.ofString "/proc/self/exe") (.ofString "/usr/local/bin/node")
    |>.addText (.ofString "/proc/cpuinfo") (String.join ((List.range 4).map coreBlock))
    |>.addText (.ofString "/proc/stat") fourCoreCounters
  [0, 1, 2, 3].foldl (fun f core => f.addFrequency core 4600000) described

/-! ## A single core -/

def singleCore : Fixture :=
  Fixture.empty
    |>.addText (.ofString "/proc/self/stat") (statusLine 77 "worker" 268435456 2048)
    |>.addLink (.ofString "/proc/self/exe") (.ofString "/opt/app/bin/worker")
    |>.addText (.ofString "/proc/cpuinfo")
      ("processor\t: 0\n" ++
       "vendor_id\t: AuthenticAMD\n" ++
       "model name\t: AMD EPYC 7B13\n" ++
       "cpu MHz\t\t: 2449.998\n" ++
       "flags\t\t: fpu vme de pse tsc hypervisor\n")
    |>.addText (.ofString "/proc/stat")
      ("cpu  5000 0 1200 90000 300 0 10 0 0 0\n" ++
       "cpu0 5000 0 1200 90000 300 0 10 0 0 0\n" ++
       "intr 20000 0 0 0\n" ++
       "ctxt 120000\n")

end HostInfo.Scenario
