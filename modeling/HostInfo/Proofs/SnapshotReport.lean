import HostInfo.Proofs.Reports

/-!
# What the report on a snapshot shows

The report is made of rows, each with a line feed behind it, and a section of the snapshot has its
own rows among them. A section that is missing leaves its rows out and no others: the executable,
the load, each core, each interface and each error are shown whatever became of the rest. The one
exception are the three amounts of memory, which are shown together or not at all.
-/

namespace HostInfo.Report

/-! ## Rows -/

/-- Each row with a line feed behind it. -/
def unlines (rows : List String) : String := String.join (rows.map (· ++ "\n"))

theorem unlines_append (front back : List String) :
    unlines (front ++ back) = unlines front ++ unlines back := by
  rw [unlines, List.map_append, String.join_append]
  rfl

theorem unlines_singleton (row : String) : unlines [row] = row ++ "\n" := by
  simp [unlines]

theorem unlines_cons (row : String) (rows : List String) :
    unlines (row :: rows) = row ++ "\n" ++ unlines rows := by
  rw [← List.singleton_append, unlines_append, unlines_singleton]

theorem toList_unlines (rows : List String) :
    (unlines rows).toList = (rows.map String.toList).flatMap (· ++ ['\n']) := by
  rw [unlines, String.toList_join, List.flatMap_map, List.flatMap_map]
  exact congrArg (rows.flatMap ·) (funext fun _ => String.toList_append ..)

theorem unlines_flatMap {α : Type} (f : α → List String) (as : List α) :
    unlines (as.flatMap f) = String.join (as.map fun a => unlines (f a)) := by
  induction as with
  | nil => rfl
  | cons a as ih =>
      rw [List.flatMap_cons, unlines_append, ih, List.map_cons, String.join_cons]

/-- These are rows of the text, in this order; others may stand before, between and behind. -/
def Shows (text : String) (wanted : List String) : Prop :=
  ∃ rows, text = unlines rows ∧ wanted.Sublist rows

/-! ## The rows of each section -/

def executableRow (path : String) : String := "exe:     " ++ path

def loadRow (l : Load) : String :=
  "load average: " ++ l.one.fixed 2 ++ ", " ++ l.five.fixed 2 ++ ", " ++ l.fifteen.fixed 2

def processRow (process : ProcessMemory) : String :=
  "process: rss " ++ Size.text .detail process.residentBytes ++
    ", virtual " ++ Size.text .detail process.virtualBytes

def systemRow (free total : Binary64) : String :=
  "system:  free " ++ Size.text .detail free.toUInt64 ++
    " of " ++ Size.text .detail total.toUInt64

def cpuRow (index : Nat) (r : Cpu.Record) : String :=
  "cpu" ++ Text.padEnd 3 (toString index) ++ " " ++ figures r ++ "  " ++ r.model

def entryRow (e : Interface.Entry) : String :=
  "  " ++ Text.padEnd 5 e.family.name ++ " " ++ e.address ++
    (if e.internal then " (internal)" else "")

/-- The name of an interface, and a row for each of its addresses. -/
def interfaceRows (row : String × List Interface.Entry) : List String :=
  (row.1 ++ ":") :: row.2.map entryRow

def errorRow (e : String) : String := "error:   " ++ e

theorem load_eq_row (l : Load) : load l = loadRow l := rfl

theorem memory_eq_unlines (process : ProcessMemory) (free total : Binary64) :
    memory process free total = unlines [processRow process, systemRow free total] := by
  rw [unlines_cons, unlines_singleton]
  unfold memory processRow systemRow
  simp only [String.append_assoc]

theorem cpu_eq_row (index : Nat) (r : Cpu.Record) : cpu index r = cpuRow index r ++ "\n" := by
  rw [cpu_eq]
  unfold cpuRow
  rfl

theorem cpus_eq_unlines (records : List Cpu.Record) :
    cpus records = unlines (records.mapIdx cpuRow) := by
  have hrow : cpu = fun index r => cpuRow index r ++ "\n" := funext₂ cpu_eq_row
  have hrows : records.mapIdx cpu = (records.mapIdx cpuRow).map (· ++ "\n") := by
    apply List.ext_getElem?
    intro i
    simp only [List.getElem?_mapIdx, List.getElem?_map, Option.map_map, hrow]
    rfl
  rw [cpus, hrows, unlines]

theorem interfaces_eq_unlines (table : Interface.Table) :
    interfaces table = unlines (table.rows.flatMap interfaceRows) := by
  rw [interfaces, unlines_flatMap]
  congr 1
  apply List.map_congr_left
  rintro ⟨name, entries⟩ -
  have hentry : entries.map interfaceEntry = (entries.map entryRow).map (· ++ "\n") := by
    rw [List.map_map]
    rfl
  rw [interfaceRows, unlines_cons, interfaceRow, hentry]
  simp only [String.append_assoc]
  rfl

theorem errors_eq_unlines (errors : List String) :
    String.join (errors.map fun e => "error:   " ++ e ++ "\n") =
      unlines (errors.map errorRow) := by
  rw [unlines, List.map_map]
  rfl

/-! ## The whole report -/

/-- The rows of a section that may be missing. -/
def optionalRows {α : Type} (f : α → List String) (a : Option α) : List String := a.elim [] f

theorem optional_eq_unlines {α : Type} {f : α → String} {g : α → List String}
    (h : ∀ a, f a = unlines (g a)) (a : Option α) : optional f a = unlines (optionalRows g a) := by
  cases a with
  | none => rfl
  | some a => exact h a

/-- The rows of the memory, of which there are none where one of the amounts is missing. -/
def memoryRows (s : Snapshot) : List String :=
  match s.memory, s.freeMemory, s.totalMemory with
  | some process, some free, some total => [processRow process, systemRow free total]
  | _, _, _ => []

theorem snapshotMemory_eq_unlines (s : Snapshot) : snapshotMemory s = unlines (memoryRows s) := by
  unfold snapshotMemory memoryRows
  cases s.memory with
  | none => rfl
  | some process =>
      cases s.freeMemory with
      | none => rfl
      | some free =>
          cases s.totalMemory with
          | none => rfl
          | some total => exact memory_eq_unlines process free total

/-- The rows of each section, in the order of the report. -/
def sections (s : Snapshot) (age : String) : List (List String) :=
  [["title:   " ++ s.title], optionalRows (fun path => [executableRow path]) s.executable, [age],
    optionalRows (fun l => [loadRow l]) s.load, memoryRows s, s.cpus.mapIdx cpuRow,
    optionalRows (·.rows.flatMap interfaceRows) s.interfaces, s.errors.map errorRow]

theorem snapshot_eq_unlines {now : Int} {s : Snapshot} {age : String}
    (h : uptime now s.uptime s.processAge = some age) :
    snapshot now s = some (unlines (sections s age).flatten) := by
  have hexecutable : optional (fun path => "exe:     " ++ path ++ "\n") s.executable =
      unlines (optionalRows (fun path => [executableRow path]) s.executable) :=
    optional_eq_unlines (fun path => (unlines_singleton (executableRow path)).symm) _
  have hload : optional (fun l => load l ++ "\n") s.load =
      unlines (optionalRows (fun l => [loadRow l]) s.load) :=
    optional_eq_unlines (fun l => by rw [load_eq_row, unlines_singleton]) _
  have hinterfaces : optional interfaces s.interfaces =
      unlines (optionalRows (·.rows.flatMap interfaceRows) s.interfaces) :=
    optional_eq_unlines interfaces_eq_unlines _
  rw [snapshot, h, Option.map_some, hexecutable, hload, hinterfaces, snapshotMemory_eq_unlines,
    cpus_eq_unlines, errors_eq_unlines]
  simp only [sections, List.flatten_cons, List.flatten_nil, List.append_nil, unlines_append,
    unlines_singleton, String.append_assoc]

/-- The start of the system has a date, or is not known. -/
def Dated (now : Int) (s : Snapshot) : Prop :=
  s.uptime < 0 ∨ (bootTime? now s.uptime).isSome

/-- What a report tells of a snapshot. -/
structure Tells (text : String) (s : Snapshot) : Prop where
  executable : ∀ path, s.executable = some path → Shows text [executableRow path]
  load : ∀ l, s.load = some l → Shows text [loadRow l]
  memory : ∀ process free total, s.memory = some process → s.freeMemory = some free →
    s.totalMemory = some total → Shows text [processRow process, systemRow free total]
  /-- One row for each core. -/
  cpus : Shows text (s.cpus.mapIdx cpuRow)
  interfaces : ∀ table, s.interfaces = some table →
    Shows text (table.rows.flatMap interfaceRows)
  errors : Shows text (s.errors.map errorRow)

theorem tells_sections (s : Snapshot) (age : String) :
    Tells (unlines (sections s age).flatten) s := by
  have hshows : ∀ {wanted}, wanted ∈ sections s age →
      Shows (unlines (sections s age).flatten) wanted := fun h =>
    ⟨_, rfl, List.sublist_flatten_of_mem h⟩
  constructor
  · intro path h
    refine hshows ?_
    simp [sections, optionalRows, h]
  · intro l h
    refine hshows ?_
    simp [sections, optionalRows, h]
  · intro process free total hprocess hfree htotal
    refine hshows ?_
    simp [sections, memoryRows, hprocess, hfree, htotal]
  · refine hshows ?_
    simp [sections]
  · intro table h
    refine hshows ?_
    simp [sections, optionalRows, h]
  · refine hshows ?_
    simp [sections]

/-- **A missing section hides no other, but for the amounts of memory.** Where the start of
the system has a date or is not known there is a report, and it shows every section that is there,
whichever of the others are missing. The memory is shown if all three of its amounts are there; if
one is missing the report is the one on a snapshot without any of them. -/
theorem sections_shown {now : Int} {s : Snapshot} (h : Dated now s) :
    ∃ text, snapshot now s = some text ∧ Tells text s ∧
      (s.memory = none ∨ s.freeMemory = none ∨ s.totalMemory = none →
        snapshot now { s with memory := none, freeMemory := none, totalMemory := none } =
          some text) := by
  obtain ⟨age, hage⟩ := exists_uptime h s.processAge
  refine ⟨_, snapshot_eq_unlines hage, tells_sections s age, ?_⟩
  intro hmissing
  have hmemory : memoryRows s = [] := by
    rcases hmissing with hnone | hnone | hnone
    · simp [memoryRows, hnone]
    · simp [memoryRows, hnone]
    · simp [memoryRows, hnone]
  have hbare := snapshot_eq_unlines (s := { s with
    memory := none, freeMemory := none, totalMemory := none }) hage
  rw [hbare, sections, sections, hmemory]
  rfl

/-- A snapshot of which every section is missing. -/
def bare : Snapshot where
  title := "node"
  executable := none
  memory := none
  cpus := []
  freeMemory := none
  totalMemory := none
  uptime := unknownUptime
  processAge := unknownUptime
  load := none
  interfaces := none
  errors := []

/-- The load and the error are shown without the executable, the cores and the interfaces, at a
moment that has a date; the process's memory is not shown without the system's. -/
theorem sections_shown_partly :
    let s : Snapshot := { bare with
      memory := some ⟨52428800, 1073741824⟩, load := some ⟨1, 2, 3⟩, uptime := 3600,
      errors := ["free memory: missing"] }
    Dated 1700000000000 s ∧ ∃ text, snapshot 1700000000000 s = some text ∧
      Shows text ["load average: 1.00, 2.00, 3.00"] ∧
      Shows text ["error:   free memory: missing"] ∧
      snapshot 1700000000000 { s with memory := none } = some text := by
  intro s
  have hdated : Dated 1700000000000 s :=
    .inr (by decide +kernel)
  have hload : loadRow ⟨1, 2, 3⟩ = "load average: 1.00, 2.00, 3.00" := by decide +kernel
  obtain ⟨text, htext, htells, hhidden⟩ := sections_shown hdated
  exact ⟨hdated, text, htext, hload ▸ htells.load _ rfl, htells.errors,
    hhidden (.inr (.inl rfl))⟩

/-- Both amounts of the system are hidden where the process's memory is missing, and the latter is
hidden where the system's are: neither stands anywhere in the report. -/
theorem memory_hidden_in_part :
    let process : ProcessMemory := ⟨52428800, 1073741824⟩
    let free := Binary64.ofNat (2 ^ 30)
    let total := Binary64.ofNat (2 ^ 32)
    (∃ text, snapshot 0 { bare with
        freeMemory := some free, totalMemory := some total,
        errors := ["process memory: missing"] } = some text ∧
      ¬ (Size.text .detail free.toUInt64).toList <:+: text.toList ∧
      ¬ (Size.text .detail total.toUInt64).toList <:+: text.toList) ∧
    ∃ text, snapshot 0 { bare with
        memory := some process,
        errors := ["free memory: missing", "total memory: missing"] } = some text ∧
      ¬ (Size.text .detail process.residentBytes).toList <:+: text.toList ∧
      ¬ (Size.text .detail process.virtualBytes).toList <:+: text.toList := by
  refine ⟨⟨"title:   node\nuptime unavailable\nerror:   process memory: missing\n", ?_, ?_, ?_⟩,
    ⟨"title:   node\nuptime unavailable\nerror:   free memory: missing\n" ++
      "error:   total memory: missing\n", ?_, ?_, ?_⟩⟩
  all_goals decide +kernel

end HostInfo.Report
