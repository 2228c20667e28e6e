import Mathlib.Data.List.Infix
import HostInfo.Files.Fixture
import HostInfo.Os.Simulated
import HostInfo.Snapshot

/-!
# Snapshots and single queries

The seven sections of a snapshot that a query can fail to fill, as a table: the name of each
section, its query, and its place in the snapshot. A snapshot shows in every section what the query
of that section answers and in its errors, in the order of the table, why the others have no answer.
-/

namespace HostInfo.Snapshot

/-! ## Sections -/

inductive Section where
  | executable
  | memory
  | cpus
  | freeMemory
  | totalMemory
  | load
  | interfaces
deriving DecidableEq, Repr

namespace Section

/-- All sections, in the order of their queries. -/
def all : List Section :=
  [.executable, .memory, .cpus, .freeMemory, .totalMemory, .load, .interfaces]

def name : Section → String
  | .executable => "executable path"
  | .memory => "process memory"
  | .cpus => "cpus"
  | .freeMemory => "free memory"
  | .totalMemory => "total memory"
  | .load => "load average"
  | .interfaces => "interfaces"

/-- How the entries of a section begin. -/
def label (s : Section) : String := s.name ++ ": "

abbrev Answer : Section → Type
  | .executable => String
  | .memory => ProcessMemory
  | .cpus => List Cpu.Record
  | .freeMemory => Binary64
  | .totalMemory => Binary64
  | .load => Load
  | .interfaces => Interface.Table

def query (p : Platform) (host : Host) : (s : Section) → Except Failure s.Answer
  | .executable => p.executable host Executable.defaultCapacity
  | .memory => p.processMemory host
  | .cpus => p.cpus host
  | .freeMemory => p.freeMemory host
  | .totalMemory => p.totalMemory host
  | .load => p.load host
  | .interfaces => p.interfaces host

/-- What a snapshot has in a section. The list of cores is empty where there is none. -/
abbrev Content : Section → Type
  | .cpus => List Cpu.Record
  | s => Option s.Answer

def content (snapshot : Snapshot) : (s : Section) → s.Content
  | .executable => snapshot.executable
  | .memory => snapshot.memory
  | .cpus => snapshot.cpus
  | .freeMemory => snapshot.freeMemory
  | .totalMemory => snapshot.totalMemory
  | .load => snapshot.load
  | .interfaces => snapshot.interfaces

/-- The content of a section whose query has this answer. -/
def present : (s : Section) → s.Answer → s.Content
  | .executable => some
  | .memory => some
  | .cpus => id
  | .freeMemory => some
  | .totalMemory => some
  | .load => some
  | .interfaces => some

/-- The content of a section whose query fails. -/
def absent : (s : Section) → s.Content
  | .executable => none
  | .memory => none
  | .cpus => []
  | .freeMemory => none
  | .totalMemory => none
  | .load => none
  | .interfaces => none

/-- The content that the outcome of the query makes. -/
def outcome (s : Section) : Except Failure s.Answer → s.Content
  | .ok a => s.present a
  | .error _ => s.absent

/-- The entry that a section has among the errors if its query fails. -/
def complaint? (p : Platform) (host : Host) (s : Section) : Option String :=
  match s.query p host with
  | .ok _ => none
  | .error e => some (s.label ++ e.message)

/-! ## Labels -/

theorem mem_all (s : Section) : s ∈ all := by
  cases s <;> decide

/-- No label is the beginning of another one. -/
theorem eq_of_label_isPrefix {s t : Section} (h : s.label.toList <+: t.label.toList) : s = t := by
  have hall : ∀ s ∈ all, ∀ t ∈ all, s.label.toList <+: t.label.toList → s = t := by decide
  exact hall s (mem_all s) t (mem_all t) h

/-- The entry is one of this section. -/
def Labels (s : Section) (entry : String) : Prop := s.label.toList <+: entry.toList

instance (s : Section) : DecidablePred s.Labels := fun entry =>
  inferInstanceAs (Decidable (s.label.toList <+: entry.toList))

theorem labels_append_iff {s t : Section} {text : String} :
    s.Labels (t.label ++ text) ↔ s = t := by
  rw [Labels, String.toList_append]
  constructor
  · intro h
    rcases List.prefix_or_prefix_of_prefix h (List.prefix_append _ _) with hst | hts
    · exact eq_of_label_isPrefix hst
    · exact (eq_of_label_isPrefix hts).symm
  · rintro rfl
    exact List.prefix_append _ _

theorem filter_complaint? (p : Platform) (host : Host) (s t : Section) :
    (t.complaint? p host).filter (s.Labels ·) = if t = s then s.complaint? p host else none := by
  cases hquery : t.query p host with
  | ok a =>
      have hnone : t.complaint? p host = none := by rw [complaint?, hquery]
      split
      · next heq => rw [← heq, hnone]; rfl
      · rw [hnone]; rfl
  | error e =>
      have hsome : t.complaint? p host = some (t.label ++ e.message) := by rw [complaint?, hquery]
      split
      · next heq =>
          rw [← heq, hsome, Option.filter_some, if_pos]
          exact decide_eq_true (labels_append_iff.mpr rfl)
      · next hne =>
          rw [hsome, Option.filter_some, if_neg]
          simpa using mt labels_append_iff.mp (Ne.symm hne)

end Section

/-! ## What is captured -/

section Capture

variable (p : Platform) (host : Host) (session : Session)

/-- What a snapshot has in a section depends on the query of that section alone. -/
theorem content_capture (s : Section) :
    s.content (capture p host session) = s.outcome (s.query p host) := by
  cases s <;> simp only [Section.content, Section.query, capture]
  case executable => cases p.executable host Executable.defaultCapacity <;> rfl
  case memory => cases p.processMemory host <;> rfl
  case cpus => cases p.cpus host <;> rfl
  case freeMemory => cases p.freeMemory host <;> rfl
  case totalMemory => cases p.totalMemory host <;> rfl
  case load => cases p.load host <;> rfl
  case interfaces => cases p.interfaces host <;> rfl

theorem complaint_query (s : Section) :
    complaint s.name (s.query p host) = (s.complaint? p host).toList := by
  unfold Section.complaint?
  cases s.query p host <;> rfl

theorem errors_capture :
    (capture p host session).errors = Section.all.filterMap (Section.complaint? p host) := by
  have hflat : (capture p host session).errors =
      Section.all.flatMap fun s => complaint s.name (s.query p host) := by
    simp only [capture, List.append_assoc, Section.all, List.flatMap_cons, List.flatMap_nil,
      List.append_nil]
    rfl
  rw [hflat, List.filterMap_eq_flatMap_toList]
  exact congrArg (List.flatMap · Section.all) (funext (complaint_query p host))

/-- Of the errors those of one section are the one entry that its query gives, if any. -/
theorem filter_errors_capture (s : Section) :
    (capture p host session).errors.filter (s.Labels ·) = (s.complaint? p host).toList := by
  have hfilter : ∀ t : Section, (t.complaint? p host).filter (s.Labels ·) =
      if t = s then s.complaint? p host else none :=
    Section.filter_complaint? p host s
  rw [errors_capture, List.filter_filterMap]
  simp only [hfilter]
  cases s <;> rfl

/-- What a snapshot owes to the single queries. -/
structure Faithful (s : Snapshot) : Prop where
  title : s.title = session.title
  uptime : s.uptime = p.uptime host
  processAge : s.processAge = p.processAge host session
  answered : ∀ (sec : Section) (a : sec.Answer), sec.query p host = .ok a →
    sec.content s = sec.present a
  failed : ∀ (sec : Section) (e : Failure), sec.query p host = .error e →
    sec.content s = sec.absent
  /-- One entry for each failed query, in the order of the sections. -/
  errors : s.errors = Section.all.filterMap (Section.complaint? p host)
  /-- Nothing else among the errors can be taken for an entry of the section. -/
  accounted : ∀ sec : Section, s.errors.filter (sec.Labels ·) = (sec.complaint? p host).toList

theorem faithful_capture : Faithful p host session (capture p host session) where
  title := rfl
  uptime := rfl
  processAge := rfl
  answered s a h := by rw [content_capture, h, Section.outcome]
  failed s e h := by rw [content_capture, h, Section.outcome]
  errors := errors_capture p host session
  accounted := filter_errors_capture p host session

variable {p host session}

theorem Faithful.eq_capture {s : Snapshot} (h : Faithful p host session s) :
    s = capture p host session := by
  have hcontent : ∀ sec : Section, sec.content s = sec.content (capture p host session) := by
    intro sec
    rw [content_capture]
    cases hquery : sec.query p host with
    | ok a => exact h.answered sec a hquery
    | error e => exact h.failed sec e hquery
  have herrors : s.errors = (capture p host session).errors :=
    h.errors.trans (errors_capture p host session).symm
  obtain ⟨htitle, huptime, hage, -, -, -, -⟩ := h
  cases s
  rw [capture, mk.injEq]
  exact ⟨htitle, hcontent .executable, hcontent .memory, hcontent .cpus, hcontent .freeMemory,
    hcontent .totalMemory, huptime, hage, hcontent .load, hcontent .interfaces, herrors⟩

end Capture

/-- **A snapshot is the answers of the single queries.** There is one snapshot that agrees with all
of them and accounts for each that fails, and it is the one that is captured. Each section depends
on its own query alone, whatever becomes of the others. -/
theorem captured (p : Platform) (host : Host) (session : Session) :
    (∀ s, Faithful p host session s ↔ s = capture p host session) ∧
    (∀ (p' : Platform) (host' : Host) (session' : Session) (sec : Section),
      sec.query p host = sec.query p' host' →
      sec.content (capture p host session) = sec.content (capture p' host' session') ∧
      (capture p host session).errors.filter (sec.Labels ·) =
        (capture p' host' session').errors.filter (sec.Labels ·)) := by
  constructor
  · intro s
    constructor
    · exact Faithful.eq_capture
    · rintro rfl
      exact faithful_capture p host session
  · intro p' host' session' sec h
    constructor
    · rw [content_capture, content_capture, h]
    · rw [filter_errors_capture, filter_errors_capture, Section.complaint?, Section.complaint?, h]

/-- A host without any file, whose system has no status. -/
def bareHost (faults : List Fault) : Host :=
  ⟨Fixture.empty.files, Simulated.answers { Simulated.standard with status := none, faults }⟩

/-- The load is missing for a reason of its own, whether or not the page size can be had, on which
the sizes of the memory depend. -/
theorem captured_bareHost :
    (capture ⟨Platform.defaultRoots, .monotonic⟩ (bareHost []) .fresh).load = none ∧
    (capture ⟨Platform.defaultRoots, .monotonic⟩ (bareHost []) .fresh).freeMemory =
      some (Binary64.ofNat 1048576 * Binary64.ofNat 4096) ∧
    (capture ⟨Platform.defaultRoots, .monotonic⟩ (bareHost []) .fresh).errors.filter
      (Section.load.Labels ·) = ["load average: sysinfo failed: unsupported"] ∧
    (capture ⟨Platform.defaultRoots, .monotonic⟩ (bareHost []) .fresh).load =
      (capture ⟨Platform.defaultRoots, .status⟩ (bareHost [.pageSize]) .fresh).load := by
  obtain ⟨hiff, hcongr⟩ := captured ⟨Platform.defaultRoots, .monotonic⟩ (bareHost []) .fresh
  have hfaithful := (hiff _).mpr rfl
  refine ⟨hfaithful.failed .load _ rfl, hfaithful.answered .freeMemory _ rfl,
    hfaithful.accounted .load, ?_⟩
  exact (hcongr ⟨Platform.defaultRoots, .status⟩ (bareHost [.pageSize]) .fresh .load rfl).1

end HostInfo.Snapshot
