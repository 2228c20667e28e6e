import HostInfo.Files.Scenario
import HostInfo.Memory
import HostInfo.Os.Simulated
import HostInfo.Proofs.FieldScans
import HostInfo.Proofs.Numerals
import HostInfo.Proofs.Texts

/-!
# Status lines read back

A printed status line is read back whatever the command is called: the bracket before the command
is the first of the line, and the bracket after it is the last that a space follows, as nothing
behind it has a bracket. The fields are then those that were printed, so the process id, the
command and both sizes come back as they were, and the process's memory with them.
-/

namespace HostInfo.StatLine

open FieldScan Numeral Text

/-! ## The columns of a status line -/

/-- The 26 columns that must read, from the state to the start of the stack. -/
def columns : List Column :=
  [⟨"state", fun field => field.length = 1⟩, column "ppid" int32?] ++
  ["pgrp", "session", "tty_nr", "tpgid"].map (column · int32?) ++
  [column "flags" uint32?] ++
  ["minflt", "cminflt", "majflt", "cmajflt", "utime", "stime"].map (column · uint64?) ++
  ["cutime", "cstime", "priority", "nice", "num_threads", "itrealvalue"].map (column · int64?) ++
  ["starttime", "vsize", "rss", "rsslim", "startcode", "endcode", "startstack"].map
    (column · uint64?)

/-- The values of a status line stand in its fields, each at its own place. -/
structure ReadsFrom (fields : List (List Char)) (stat : StatLine) : Prop where
  state : fields[0]? = some [stat.state]
  parent : fields[1]?.bind int32? = some stat.parent
  userTicks : fields[11]?.bind uint64? = some stat.userTicks
  systemTicks : fields[12]?.bind uint64? = some stat.systemTicks
  threads : fields[17]?.bind int64? = some stat.threads
  startTime : fields[19]?.bind uint64? = some stat.startTime
  virtualBytes : fields[20]?.bind uint64? = some stat.virtualBytes
  residentPages : fields[21]?.bind uint64? = some stat.residentPages

theorem covers_scan (pid : UInt32) (command : String) :
    Covers (scan pid command) columns fun fields stat =>
      stat.pid = pid ∧ stat.command = command ∧ ReadsFrom fields stat := by
  have h := (covers_character "state").bind fun state =>
    (covers_read "ppid" int32?).bind fun parent =>
    (covers_skip int32? ["pgrp", "session", "tty_nr", "tpgid"]).bind fun _ =>
    (covers_skip uint32? ["flags"]).bind fun _ =>
    (covers_skip uint64? ["minflt", "cminflt", "majflt", "cmajflt"]).bind fun _ =>
    (covers_read "utime" uint64?).bind fun userTicks =>
    (covers_read "stime" uint64?).bind fun systemTicks =>
    (covers_skip int64? ["cutime", "cstime", "priority", "nice"]).bind fun _ =>
    (covers_read "num_threads" int64?).bind fun threads =>
    (covers_skip int64? ["itrealvalue"]).bind fun _ =>
    (covers_read "starttime" uint64?).bind fun startTime =>
    (covers_read "vsize" uint64?).bind fun virtualBytes =>
    (covers_read "rss" uint64?).bind fun residentPages =>
    (covers_skip uint64? ["rsslim", "startcode", "endcode", "startstack"]).bind fun _ =>
    covers_pure (StatLine.mk pid command state parent userTicks systemTicks threads startTime
      virtualBytes residentPages)
  refine h.imp ?_
  rintro fields _ ⟨state, hstate, parent, hparent, -, -, -, -, -, -, user, huser, system, hsystem,
    -, -, threads, hthreads, -, -, start, hstart, virtual, hvirtual, resident, hresident, -, -, rfl⟩
  simp only [List.drop_drop, List.head?_drop, List.length_cons, List.length_map, List.length_nil]
    at hparent huser hsystem hthreads hstart hvirtual hresident
  exact ⟨rfl, rfl, List.head?_eq_getElem? ▸ hstate, hparent, huser, hsystem, hthreads, hstart,
    hvirtual, hresident⟩

/-! ## Printed status lines -/

/-- The numbers of a printed status line, from the parent on. -/
def printedNumbers (pid : UInt32) (virtualBytes residentPages : UInt64) : List Nat :=
  let id := pid.toNat
  [1233, id, id, 34816, id, 4194304, 5000, 50000, 10, 20, 100, 50, 200, 100, 20, 0, 1, 0, 100000,
   virtualBytes.toNat, residentPages.toNat, 18446744073709551615, 94000000000000, 94000000100000,
   140730000000000, 0, 0, 0, 65536, 3670020, 1266777851, 0, 0, 0, 17, 2, 0, 0, 5, 0, 0, 0, 0, 0, 0,
   0, 0, 0, 0]

def printedFields (pid : UInt32) (virtualBytes residentPages : UInt64) : List (List Char) :=
  ['S'] :: (printedNumbers pid virtualBytes residentPages).map digits

variable (pid : UInt32) (command : String) (virtualBytes residentPages : UInt64)

theorem toList_statusFields :
    (Scenario.statusFields pid virtualBytes residentPages).map String.toList =
      printedFields pid virtualBytes residentPages := by
  simp only [Scenario.statusFields, List.map_cons, toList_toString_uint32, toList_toString_uint64]
  rfl

variable {pid virtualBytes residentPages} in
theorem of_mem_printedFields {w : List Char}
    (h : w ∈ printedFields pid virtualBytes residentPages) :
    w ≠ [] ∧ ∀ c ∈ w, isBlank c = false ∧ c ≠ ')' := by
  rcases List.mem_cons.mp h with rfl | h
  · refine ⟨List.cons_ne_nil _ _, ?_⟩
    intro c hc
    obtain rfl := List.mem_singleton.mp hc
    exact ⟨by decide, by decide⟩
  · obtain ⟨n, -, rfl⟩ := List.mem_map.mp h
    refine ⟨digits_ne_nil n, ?_⟩
    intro c hc
    refine ⟨isBlank_eq_false_of_mem_digits hc, ?_⟩
    rintro rfl
    exact not_mem_digits (by decide) n hc

/-- The only field that may not read is the process id where a signed number is asked for. -/
theorem fault_printedFields :
    fault? columns (printedFields pid virtualBytes residentPages) =
      if pid.toNat < 2 ^ 31 then none else some (.badField "pgrp" (toString pid)) := by
  have hv := virtualBytes.toNat_lt
  have hr := residentPages.toNat_lt
  simp only [columns, List.map_cons, List.map_nil, List.cons_append, List.nil_append, column,
    printedFields, printedNumbers, fault?, isSome_int32_digits, isSome_uint32_digits,
    isSome_uint64_digits, isSome_int64_digits]
  by_cases hp : pid.toNat < 2 ^ 31
  · simp only [hv, hr, hp, decide_true, if_true]
    rfl
  · simp only [hp, decide_false, if_false]
    rfl

/-- Fields leave no choice of the values read from them. -/
theorem ReadsFrom.unique {fields : List (List Char)} {a b : StatLine} (ha : ReadsFrom fields a)
    (hb : ReadsFrom fields b) (hpid : a.pid = b.pid) (hcommand : a.command = b.command) :
    a = b := by
  have hstate := ha.state.symm.trans hb.state
  have hparent := ha.parent.symm.trans hb.parent
  have huser := ha.userTicks.symm.trans hb.userTicks
  have hsystem := ha.systemTicks.symm.trans hb.systemTicks
  have hthreads := ha.threads.symm.trans hb.threads
  have hstart := ha.startTime.symm.trans hb.startTime
  have hvirtual := ha.virtualBytes.symm.trans hb.virtualBytes
  have hresident := ha.residentPages.symm.trans hb.residentPages
  cases a
  cases b
  simp_all

theorem readsFrom_printedFields :
    ReadsFrom (printedFields pid virtualBytes residentPages)
      ⟨pid, command, 'S', 1233, 100, 50, 1, 100000, virtualBytes, residentPages⟩ := by
  have hparent : int32? (digits 1233) = some 1233 := by decide
  have huser : uint64? (digits 100) = some 100 := by decide
  have hsystem : uint64? (digits 50) = some 50 := by decide
  have hthreads : int64? (digits 1) = some 1 := by decide
  have hstart : uint64? (digits 100000) = some 100000 := by decide
  refine ⟨rfl, ?_, ?_, ?_, ?_, ?_, ?_, ?_⟩ <;>
    simp only [printedFields, printedNumbers, List.map_cons, List.getElem?_cons_succ,
      List.getElem?_cons_zero, Option.bind_some, hparent, huser, hsystem, hthreads, hstart,
      uint64_digits]

/-- Whatever the command is called, it is found, and the fields behind it are those printed. -/
theorem ofText_statusLine_eq_runOn :
    ofText (Scenario.statusLine pid command virtualBytes residentPages) =
      (scan pid command).runOn
        ([' '].intercalate (printedFields pid virtualBytes residentPages)) := by
  have hmem := @of_mem_printedFields pid virtualBytes residentPages
  have hne : printedFields pid virtualBytes residentPages ≠ [] := List.cons_ne_nil _ _
  have htext : (Scenario.statusLine pid command virtualBytes residentPages).toList =
      (digits pid.toNat ++ [' ']) ++ '(' :: (command.toList ++ ([')', ' '] ++
        [' '].intercalate (printedFields pid virtualBytes residentPages))) ++ ['\n'] := by
    simp only [Scenario.statusLine, String.toList_append, String.toList_intercalate,
      toList_statusFields, toList_toString_uint32]
    simp
  -- the first bracket of the line is the one before the command, the last the one behind it
  have hopen : '(' ∉ digits pid.toNat ++ [' '] := by
    simp [not_mem_digits (show '('.isDigit = false by decide)]
  have hclose : ')' ∉ [' '].intercalate (printedFields pid virtualBytes residentPages) := by
    intro hc
    rcases mem_intercalate hc with h | ⟨w, hw, h⟩
    · exact absurd h (by decide)
    · exact ((hmem hw).2 _ h).2 rfl
  have hid : trim (digits pid.toNat ++ [' ']) = digits pid.toNat := by
    rw [trim, trimEnd_concat_blank (by decide), ← trim]
    exact trim_eq_self fun c hc => isBlank_eq_false_of_mem_digits hc
  have hend : trimEnd (Scenario.statusLine pid command virtualBytes residentPages).toList =
      (digits pid.toNat ++ [' ']) ++ '(' :: (command.toList ++ ([')', ' '] ++
        [' '].intercalate (printedFields pid virtualBytes residentPages))) := by
    rw [htext, trimEnd_concat_blank (by decide)]
    have h := trimEnd_intercalate hne
      (fun w hw => ⟨(hmem hw).1, fun c hc => ((hmem hw).2 c hc).1⟩)
      (digits pid.toNat ++ ' ' :: '(' :: (command.toList ++ [')', ' ']))
    simpa using h
  rw [ofText, ofChars, hend, cutFirst_append hopen]
  simp only [hid, uint32_digits, cutLast_append (show ')' ∉ [' '] by decide) hclose,
    String.ofList_toList]

theorem fields_printedFields :
    Text.fields ([' '].intercalate (printedFields pid virtualBytes residentPages)) =
      printedFields pid virtualBytes residentPages := by
  refine fields_intercalate ?_
  intro w hw
  obtain ⟨hne, hchars⟩ := of_mem_printedFields hw
  exact ⟨hne, fun c hc => isFieldBlank_eq_false_of_isBlank (hchars c hc).1⟩

end HostInfo.StatLine

namespace HostInfo.StatLine

open FieldScan

variable {pid : UInt32} (command : String) (virtualBytes residentPages : UInt64)

theorem ofText_statusLine_of_lt (h : pid.toNat < 2 ^ 31) :
    ofText (Scenario.statusLine pid command virtualBytes residentPages) =
      .ok ⟨pid, command, 'S', 1233, 100, 50, 1, 100000, virtualBytes, residentPages⟩ := by
  have hfields := fields_printedFields pid virtualBytes residentPages
  have hnone : fault? columns (Text.fields ([' '].intercalate
      (printedFields pid virtualBytes residentPages))) = none := by
    rw [hfields, fault_printedFields, if_pos h]
  obtain ⟨stat, hstat, hpid, hcommand, hreads⟩ := (covers_scan pid command).exists_value hnone
  rw [hfields] at hreads
  rw [ofText_statusLine_eq_runOn, runOn_eq, hstat]
  congr 1
  exact hreads.unique (readsFrom_printedFields pid command virtualBytes residentPages) hpid hcommand

theorem ofText_statusLine_of_le (h : 2 ^ 31 ≤ pid.toNat) :
    ofText (Scenario.statusLine pid command virtualBytes residentPages) =
      .error (.badField "pgrp" (toString pid)) := by
  rw [ofText_statusLine_eq_runOn, runOn_eq]
  refine (covers_scan pid command).value_eq_error_iff.mpr ?_
  rw [fields_printedFields, fault_printedFields, if_neg (Nat.not_lt.mpr h)]

end HostInfo.StatLine

namespace HostInfo.ProcessMemory

open Scenario (statusLine)

/-! ## Sizes of the process -/

theorem ofStatLine_of_lt {stat : StatLine} {pageSize : UInt64}
    (h : stat.residentPages.toNat * pageSize.toNat < 2 ^ 64) :
    ∃ m, ofStatLine stat pageSize = .ok m ∧
      m.residentBytes.toNat = stat.residentPages.toNat * pageSize.toNat ∧
      m.virtualBytes = stat.virtualBytes := by
  refine ⟨_, dif_pos h, ?_, rfl⟩
  exact UInt64.toNat_ofNatLT

theorem ofStatLine_of_le {stat : StatLine} {pageSize : UInt64}
    (h : 2 ^ 64 ≤ stat.residentPages.toNat * pageSize.toNat) :
    ∃ e, ofStatLine stat pageSize = .error e ∧ e.kind = .format :=
  ⟨_, dif_neg (Nat.not_lt.mpr h), rfl⟩

theorem query_of_ok {proc : Path} {files : Files} {os : Os} {text : String} {stat : StatLine}
    {pageSize : UInt64} (hread : files.readText (proc.join "self/stat") = .ok text)
    (hstat : StatLine.ofText text = .ok stat) (hpage : os.pageSize = .ok pageSize) :
    query proc files os = ofStatLine stat pageSize := by
  simp only [query, hread, Except.mapError]
  show ((StatLine.ofText text).mapError _ >>= _) = _
  rw [hstat]
  show (os.pageSize >>= _) = _
  rw [hpage]
  rfl

/-- **Status lines read back.** A command of any characters leaves the id, the command, both sizes
and the fixed fields as they were printed, and the memory read from the line is the product of
pages and page size, or an error where 64 bits do not hold it. An id that is no signed number of
32 bits is refused where the group of the process is read. -/
theorem statusLine_reads_back (pid : UInt32) (command : String)
    (virtualBytes residentPages : UInt64) :
    (pid.toNat < 2 ^ 31 →
      StatLine.ofText (statusLine pid command virtualBytes residentPages) =
        .ok { pid, command, state := 'S', parent := 1233, userTicks := 100, systemTicks := 50,
              threads := 1, startTime := 100000, virtualBytes, residentPages } ∧
      ∀ (proc : Path) (files : Files) (os : Os) (pageSize : UInt64),
        files.readText (proc.join "self/stat") =
          .ok (statusLine pid command virtualBytes residentPages) →
        os.pageSize = .ok pageSize →
        (residentPages.toNat * pageSize.toNat < 2 ^ 64 →
          ∃ m, query proc files os = .ok m ∧
            m.residentBytes.toNat = residentPages.toNat * pageSize.toNat ∧
            m.virtualBytes = virtualBytes) ∧
        (2 ^ 64 ≤ residentPages.toNat * pageSize.toNat →
          ∃ e, query proc files os = .error e ∧ e.kind = .format)) ∧
    (2 ^ 31 ≤ pid.toNat →
      ∃ e, StatLine.ofText (statusLine pid command virtualBytes residentPages) = .error e ∧
        e.message = "invalid pgrp: '" ++ toString pid ++ "'") := by
  constructor
  · intro hpid
    have hstat := StatLine.ofText_statusLine_of_lt command virtualBytes residentPages hpid
    refine ⟨hstat, ?_⟩
    intro proc files os pageSize hread hpage
    rw [query_of_ok hread hstat hpage]
    exact ⟨fun h => ofStatLine_of_lt h, fun h => ofStatLine_of_le h⟩
  · intro hpid
    exact ⟨_, StatLine.ofText_statusLine_of_le command virtualBytes residentPages hpid, rfl⟩

/-- A command full of brackets, blanks and numbers, on a line that is read, on one whose product
is too great, and on one whose id is. -/
theorem statusLine_reads_back_brackets :
    let line := statusLine 42 "a) (b) R 7\n" 123456789 321
    let long := statusLine 42 "a) (b) R 7\n" 123456789 18446744073709551615
    let os := Simulated.standard.answers
    (StatLine.ofText line =
        .ok ⟨42, "a) (b) R 7\n", 'S', 1233, 100, 50, 1, 100000, 123456789, 321⟩ ∧
      ∃ m, query (.ofString "/p") ⟨fun _ => .ok line, fun _ => .error .noEntry⟩ os = .ok m ∧
        m.residentBytes.toNat = 321 * 4096 ∧ m.virtualBytes = 123456789) ∧
    (∃ e, query (.ofString "/p") ⟨fun _ => .ok long, fun _ => .error .noEntry⟩ os = .error e ∧
      e.kind = .format) ∧
    ∃ e, StatLine.ofText (statusLine 2147483648 ")" 0 0) = .error e ∧
      e.message = "invalid pgrp: '2147483648'" := by
  intro line long os
  have hline := (statusLine_reads_back 42 "a) (b) R 7\n" 123456789 321).1 (by decide)
  have hlong := (statusLine_reads_back 42 "a) (b) R 7\n" 123456789 18446744073709551615).1
    (by decide)
  refine ⟨⟨hline.1, ?_⟩, ?_, ?_⟩
  · exact (hline.2 _ ⟨fun _ => .ok line, fun _ => .error .noEntry⟩ os 4096 rfl rfl).1 (by decide)
  · exact (hlong.2 _ ⟨fun _ => .ok long, fun _ => .error .noEntry⟩ os 4096 rfl rfl).2 (by decide)
  · exact (statusLine_reads_back 2147483648 ")" 0 0).2 (by decide)

end HostInfo.ProcessMemory
