import HostInfo.CommandLine.Run
import HostInfo.Files.Fixture
import HostInfo.Os.Simulated
import HostInfo.Proofs.Clock
import HostInfo.Proofs.JsonText
import HostInfo.Proofs.ProcessTitle
import HostInfo.Proofs.Reports

/-!
# What commands leave behind

Every command asks all that it has to ask, and then writes once. So a command that fails has
written nothing, and JSON and report differ in the text only. The one command that changes
anything is the one with a new title: it writes that title if the system takes it as its name, and
else it sets the title up with the empty text, which is a change only where it never was set up.
-/

namespace HostInfo.CommandLine

open ProcessTitle

/-! ## Steps -/

namespace Run

variable {σ α β γ : Type}

theorem bind_apply (x : Run σ α) (f : α → Run σ β) (s : Progress σ) :
    (x >>= f) s =
      match x s with
      | (.ok a, s') => f a s'
      | (.error stop, s') => (.error stop, s') := by
  have hbind : (x >>= f) s = ((ExceptT.bindCont f (x s).1) : StateM (Progress σ) _) (x s).2 := rfl
  rw [hbind]
  rcases x s with ⟨_ | a, s'⟩
  · rfl
  · rfl

theorem ask_apply (query : Except Failure α) (s : Progress σ) :
    (ask query : Run σ α) s = (query.mapError .failure, s) := by
  cases query with
  | ok a => rfl
  | error e => rfl

/-- Where a run that begins with a query stops. -/
theorem ask_bind_stops_iff {query : Except Failure α} {f : α → Run σ β} {s : Progress σ}
    {stop : Stop} :
    ((ask query >>= f) s).1 = .error stop ↔
      (∃ e, query = .error e ∧ stop = .failure e) ∨
      ∃ a, query = .ok a ∧ (f a s).1 = .error stop := by
  rw [bind_apply, ask_apply]
  cases query with
  | ok a =>
      constructor
      · intro h
        exact .inr ⟨a, rfl, h⟩
      · rintro (⟨e, h, -⟩ | ⟨a', h, hstop⟩)
        · cases h
        · cases h
          exact hstop
  | error e =>
      constructor
      · intro h
        cases h
        exact .inl ⟨e, rfl, rfl⟩
      · rintro (⟨e', h, rfl⟩ | ⟨a, h, -⟩)
        · cases h
          rfl
        · cases h

/-- The change of the title, with all that it does to the session. -/
theorem setTitle_apply [OperatingSystem σ] (title : String) (s : Progress σ) :
    (setTitle title : Run σ Unit) s =
      match OperatingSystem.rename title s.os with
      | .ok os => (.ok (), { s with session := { s.session with store := some ⟨title⟩ }, os })
      | .error e => (.error (.failure e), { s with session := s.session.setUpTitle "" }) := by
  have hask : (setTitle title : Run σ Unit) s =
      (ask (s.session.setTitle title s.os).1 : Run σ Unit)
        { s with session := (s.session.setTitle title s.os).2.1,
                 os := (s.session.setTitle title s.os).2.2 } := rfl
  rw [hask, ask_apply, setTitle_eq]
  cases OperatingSystem.rename title s.os with
  | ok os => rfl
  | error e => rfl

/-! ## What a part of a run keeps -/

/-- What `view` sees of the progress stays as it is, whether the part comes to its end or stops. -/
def Keeps (view : Progress σ → γ) (x : Run σ α) : Prop := ∀ s, view (x s).2 = view s

variable {view : Progress σ → γ}

theorem Keeps.pure (a : α) : Keeps view (Pure.pure a : Run σ α) := fun _ => rfl

theorem Keeps.bind {x : Run σ α} {f : α → Run σ β} (hx : Keeps view x)
    (hf : ∀ a, Keeps view (f a)) : Keeps view (x >>= f) := by
  intro s
  have hfirst := hx s
  rw [bind_apply]
  rcases hstep : x s with ⟨_ | a, s'⟩
  · rwa [hstep] at hfirst
  · rw [hstep] at hfirst
    exact (hf a s').trans hfirst

theorem Keeps.ask (query : Except Failure α) : Keeps view (ask query : Run σ α) := by
  intro s
  rw [ask_apply]

theorem Keeps.dated (report : Option String) : Keeps view (dated report : Run σ String) := by
  intro s
  cases report with
  | none => rfl
  | some text => rfl

theorem Keeps.currentTitle : Keeps view (currentTitle : Run σ String) := fun _ => rfl

theorem Keeps.setTitle_start [OperatingSystem σ] (title : String) :
    Keeps (fun s => s.session.start) (setTitle title : Run σ Unit) := by
  intro s
  rw [setTitle_apply]
  cases OperatingSystem.rename title s.os with
  | ok os => rfl
  | error e => exact start_setUpTitle s.session ""

/-! ## Asking first and writing last -/

/-- The part writes nothing, and where it stops, that is because of a failure. -/
structure Asks (x : Run σ α) : Prop where
  quiet : Keeps Progress.output x
  failure : ∀ s stop, (x s).1 = .error stop → ∃ e, stop = .failure e

theorem Asks.of_goes_on {x : Run σ α} (hquiet : Keeps Progress.output x)
    (h : ∀ s, ∃ a, (x s).1 = .ok a) : Asks x := by
  refine ⟨hquiet, fun s stop hstop => ?_⟩
  obtain ⟨a, ha⟩ := h s
  rw [ha] at hstop
  cases hstop

theorem Asks.pure (a : α) : Asks (Pure.pure a : Run σ α) := .of_goes_on (.pure a) fun _ => ⟨a, rfl⟩

theorem Asks.bind {x : Run σ α} {f : α → Run σ β} (hx : Asks x) (hf : ∀ a, Asks (f a)) :
    Asks (x >>= f) := by
  refine ⟨hx.quiet.bind fun a => (hf a).quiet, fun s stop hstop => ?_⟩
  have hfirst := hx.failure s
  rw [bind_apply] at hstop
  rcases hstep : x s with ⟨stop' | a, s'⟩
  · rw [hstep] at hfirst hstop
    cases hstop
    exact hfirst stop rfl
  · rw [hstep] at hstop
    exact (hf a).failure s' stop hstop

theorem Asks.ask (query : Except Failure α) : Asks (ask query : Run σ α) := by
  refine ⟨.ask query, fun s stop hstop => ?_⟩
  rw [ask_apply] at hstop
  cases query with
  | ok a => cases hstop
  | error e =>
      cases hstop
      exact ⟨e, rfl⟩

theorem Asks.log (events : List Log.Event) : Asks (log events : Run σ Unit) :=
  .of_goes_on (fun _ => rfl) fun _ => ⟨(), rfl⟩

theorem Asks.currentTitle : Asks (currentTitle : Run σ String) :=
  .of_goes_on .currentTitle fun s => ⟨s.session.title, rfl⟩

theorem Asks.setTitle [OperatingSystem σ] (title : String) :
    Asks (setTitle title : Run σ Unit) := by
  refine ⟨fun s => ?_, fun s stop hstop => ?_⟩
  · rw [setTitle_apply]
    cases OperatingSystem.rename title s.os with
    | ok os => rfl
    | error e => rfl
  · rw [setTitle_apply] at hstop
    cases hrename : OperatingSystem.rename title s.os with
    | ok os =>
        rw [hrename] at hstop
        cases hstop
    | error e =>
        rw [hrename] at hstop
        cases hstop
        exact ⟨e, rfl⟩

/-- Both forms are one run that asks, followed by the writing of one text for each form. -/
def WritesLast (x : Bool → Run σ Unit) : Prop :=
  ∃ reply : Run σ (Bool → String), Asks reply ∧
    ∀ json, x json = reply >>= fun text => write (text json)

theorem WritesLast.write (text : Bool → String) :
    WritesLast fun json => (write (text json) : Run σ Unit) :=
  ⟨Pure.pure text, .pure text, fun json => (pure_bind text fun text => Run.write (text json)).symm⟩

/-- A report in place of JSON, where it has all its dates. -/
theorem WritesLast.dated {report : Option String} {text : String} (h : report = some text)
    (value : String) (shown : String → String) :
    WritesLast fun json =>
      if json then (Run.write value : Run σ Unit)
      else Run.dated report >>= fun text => Run.write (shown text) := by
  subst h
  refine ⟨Pure.pure fun json => if json then value else shown text, .pure _, fun json => ?_⟩
  cases json with
  | true => rfl
  | false => rfl

theorem WritesLast.bind {x : Run σ α} {f : Bool → α → Run σ Unit} (hx : Asks x)
    (hf : ∀ a, WritesLast fun json => f json a) : WritesLast fun json => x >>= f json := by
  -- one reply for each answer of `x`; behind `x` they are one run again
  choose reply hasks heq using hf
  refine ⟨x >>= reply, hx.bind hasks, fun json => ?_⟩
  rw [bind_assoc]
  exact congrArg (x >>= ·) (funext fun a => heq a json)

/-- Both forms come to the same, but for what is written. -/
structure Same (o o' : Outcome σ) : Prop where
  result : o.result = o'.result
  events : o.events = o'.events
  session : o.session = o'.session
  os : o.os = o'.os

theorem WritesLast.same {x : Bool → Run σ Unit} (h : WritesLast x) (s : Progress σ) :
    Same ⟨(x true s).2, (x true s).1⟩ ⟨(x false s).2, (x false s).1⟩ := by
  obtain ⟨reply, -, heq⟩ := h
  rw [heq, heq, bind_apply, bind_apply]
  rcases reply s with ⟨_ | text, s'⟩
  · exact ⟨rfl, rfl, rfl, rfl⟩
  · exact ⟨rfl, rfl, rfl, rfl⟩

theorem WritesLast.of_stop {x : Bool → Run σ Unit} (h : WritesLast x) {json : Bool}
    {s : Progress σ} {stop : Stop} (hstop : (x json s).1 = .error stop) :
    (x json s).2.output = s.output ∧ ∃ e, stop = .failure e := by
  obtain ⟨reply, hasks, heq⟩ := h
  have hquiet := hasks.quiet s
  have hfailure := hasks.failure s stop
  rw [heq, bind_apply] at hstop ⊢
  rcases hrun : reply s with ⟨stop' | text, s'⟩
  · rw [hrun] at hquiet hfailure hstop
    cases hstop
    exact ⟨hquiet, hfailure rfl⟩
  · rw [hrun] at hstop
    cases hstop

end Run

/-! ## Commands -/

namespace Command

open Run

variable {σ γ : Type} [OperatingSystem σ]

/-- A command keeps whatever writing and logging keep, and a change of the title if it makes one. -/
theorem keeps_steps {view : Progress σ → γ} (hwrite : ∀ text, Keeps view (write text))
    (hlog : ∀ events, Keeps view (log events)) (command : Command)
    (hchange : ∀ change, command = .title (some change) → Keeps view (setTitle change))
    (json : Bool) (timing : Timing) (p : Platform) (host : Host) (session : Session) :
    Keeps view (command.steps json timing p host session) := by
  have hshow : Keeps view (showTitle json) := .bind .currentTitle fun _ => hwrite _
  cases command with
  | memory =>
      exact .bind (.ask _) fun _ => .bind (.ask _) fun _ => .bind (.ask _) fun _ => hwrite _
  | cpus => exact .bind (hlog _) fun _ => .bind (.ask _) fun _ => hwrite _
  | load => exact .bind (.ask _) fun _ => hwrite _
  | uptime =>
      cases json with
      | true => exact hwrite _
      | false => exact .bind (.dated _) fun _ => hwrite _
  | interfaces => exact .bind (.ask _) fun _ => hwrite _
  | executable capacity => exact .bind (.ask _) fun _ => hwrite _
  | title change =>
      cases change with
      | none => exact hshow
      | some change => exact .bind (hchange change rfl) fun _ => .bind (hlog _) fun _ => hshow
  | snapshot =>
      refine .bind (hlog _) fun _ => ?_
      cases json with
      | true => exact hwrite _
      | false => exact .bind (.dated _) fun _ => hwrite _

/-- The start of the system has a date, where its uptime is known. -/
def Dated (timing : Timing) (p : Platform) (host : Host) : Prop :=
  p.uptime host < 0 ∨ (bootTime? timing.now (p.uptime host)).isSome

theorem Dated.uptime {timing : Timing} {p : Platform} {host : Host} (h : Dated timing p host)
    (age : Binary64) : ∃ text, Report.uptime timing.now (p.uptime host) age = some text :=
  Report.exists_uptime h age

theorem Dated.snapshot {timing : Timing} {p : Platform} {host : Host} (h : Dated timing p host)
    (session : Session) :
    ∃ text, Report.snapshot timing.now (.capture p host session) = some text := by
  obtain ⟨text, htext⟩ := h.uptime (p.processAge host session)
  exact ⟨_, congrArg (Option.map _) htext⟩

theorem writesLast_steps {timing : Timing} {p : Platform} {host : Host}
    (hdated : Dated timing p host) (command : Command) (session : Session) :
    WritesLast fun json => (command.steps json timing p host session : Run σ Unit) := by
  have hshow : WritesLast fun json => (showTitle json : Run σ Unit) :=
    .bind .currentTitle fun _ => .write _
  cases command with
  | memory =>
      exact .bind (.ask _) fun _ => .bind (.ask _) fun _ => .bind (.ask _) fun _ => .write _
  | cpus => exact .bind (.log _) fun _ => .bind (.ask _) fun _ => .write _
  | load => exact .bind (.ask _) fun _ => .write _
  | uptime =>
      obtain ⟨text, htext⟩ := hdated.uptime (p.processAge host session)
      exact .dated htext _ _
  | interfaces => exact .bind (.ask _) fun _ => .write _
  | executable capacity => exact .bind (.ask _) fun _ => .write _
  | title change =>
      cases change with
      | none => exact hshow
      | some change => exact .bind (.setTitle change) fun _ => .bind (.log _) fun _ => hshow
  | snapshot =>
      obtain ⟨text, htext⟩ := hdated.snapshot session
      exact .bind (.log _) fun _ => .dated htext _ _

/-- The failure of the first query that fails, in the order process, free and total memory. -/
inductive FirstMemoryFailure (p : Platform) (host : Host) : Failure → Prop where
  | process {e : Failure} : p.processMemory host = .error e → FirstMemoryFailure p host e
  | free {process : ProcessMemory} {e : Failure} : p.processMemory host = .ok process →
      p.freeMemory host = .error e → FirstMemoryFailure p host e
  | total {process : ProcessMemory} {free : Binary64} {e : Failure} :
      p.processMemory host = .ok process → p.freeMemory host = .ok free →
      p.totalMemory host = .error e → FirstMemoryFailure p host e

omit [OperatingSystem σ] in
theorem runMemory_stops_iff (json : Bool) (p : Platform) (host : Host) (s : Progress σ)
    (stop : Stop) :
    (runMemory json p host s).1 = .error stop ↔
      ∃ e, stop = .failure e ∧ FirstMemoryFailure p host e := by
  simp only [runMemory, ask_bind_stops_iff]
  constructor
  · rintro (⟨e, hprocess, rfl⟩ | ⟨process, hprocess,
      ⟨e, hfree, rfl⟩ | ⟨free, hfree, ⟨e, htotal, rfl⟩ | ⟨total, htotal, hwrite⟩⟩⟩)
    · exact ⟨e, rfl, .process hprocess⟩
    · exact ⟨e, rfl, .free hprocess hfree⟩
    · exact ⟨e, rfl, .total hprocess hfree htotal⟩
    · cases hwrite
  · rintro ⟨e, rfl, hprocess | ⟨hprocess, hfree⟩ | ⟨hprocess, hfree, htotal⟩⟩
    · exact .inl ⟨e, hprocess, rfl⟩
    · exact .inr ⟨_, hprocess, .inl ⟨e, hfree, rfl⟩⟩
    · exact .inr ⟨_, hprocess, .inr ⟨_, hfree, .inl ⟨e, htotal, rfl⟩⟩⟩

/-- These three always come to their end. -/
def NeverFails (command : Command) : Prop :=
  command = .snapshot ∨ command = .uptime ∨ command = .title none

theorem steps_of_neverFails {timing : Timing} {p : Platform} {host : Host}
    (hdated : Dated timing p host) {command : Command} (h : command.NeverFails) (json : Bool)
    (session : Session) (s : Progress σ) :
    (command.steps json timing p host session s).1 = .ok () := by
  -- as JSON there is no date to miss, and the report comes to the same
  have hjson : (command.steps true timing p host session s).1 = .ok () := by
    obtain rfl | rfl | rfl := h
    · rfl
    · rfl
    · rfl
  cases json with
  | true => exact hjson
  | false => exact ((writesLast_steps hdated command session).same s).result.symm.trans hjson

/-- What is written is this title, as a line of its own and as a JSON string. -/
structure Prints (title : String) (run : Bool → Outcome σ) : Prop where
  line : (run false).output = title ++ "\n"
  json : ∃ text, (run true).output = text ++ "\n" ∧ Json.ofText? text = some (.string title)

omit [OperatingSystem σ] in
theorem Prints.of_form {title : String} {run : Bool → Outcome σ}
    (h : ∀ json, (run json).output = form json (.string title) (title ++ "\n")) :
    Prints title run where
  line := h false
  json := ⟨_, h true, Json.ofText_prettyText_string title⟩

omit [OperatingSystem σ] in
theorem showTitle_apply (json : Bool) (s : Progress σ) :
    showTitle json s =
      (.ok (), { s with
        output := s.output ++ form json (.string s.session.title) (s.session.title ++ "\n") }) :=
  rfl

theorem changeTitle_of_taken {change : String} {s : Progress σ} {os : σ}
    (h : OperatingSystem.rename change s.os = .ok os) (json : Bool) :
    changeTitle json change s =
      (.ok (), ⟨s.output ++ form json (.string change) (change ++ "\n"),
        s.events ++ [.titleChanged change], { s.session with store := some ⟨change⟩ }, os⟩) := by
  unfold changeTitle
  rw [bind_apply, setTitle_apply, h]
  rfl

theorem changeTitle_of_refused {change : String} {s : Progress σ} {e : Failure}
    (h : OperatingSystem.rename change s.os = .error e) (json : Bool) :
    changeTitle json change s =
      (.error (.failure e), { s with session := s.session.setUpTitle "" }) := by
  unfold changeTitle
  rw [bind_apply, setTitle_apply, h]

/-- What a command does in both forms, started with `session` and a system in state `os`. -/
structure AllOrNothing (command : Command) (p : Platform) (host : Host) (session : Session) (os : σ)
    (run : Bool → Outcome σ) : Prop where
  same : Same (run true) (run false)
  /-- Where it stops, a query or the system refused, and nothing is written. -/
  silent : ∀ json stop, (run json).result = .error stop →
    (run json).output = "" ∧ ∃ e, stop = .failure e
  /-- Where it stops and the title was set up or changed before, nothing is changed. -/
  stopped : session.store ≠ none → ∀ json stop, (run json).result = .error stop →
    (run json).session = session ∧ (run json).os = os
  neverFails : command.NeverFails → ∀ json, (run json).result = .ok ()
  /-- A new title that the system takes is the title from then on, and is what is written. -/
  taken : ∀ change os', command = .title (some change) →
    OperatingSystem.rename change os = .ok os' →
      Prints change run ∧ ∀ json, (run json).result = .ok () ∧
        (run json).session = { session with store := some ⟨change⟩ } ∧ (run json).os = os'
  /-- A new title that the system refuses leaves what setting up the empty title leaves: a title
  that never was set up is then set up, and any other stays as it is. -/
  refused : ∀ change e, command = .title (some change) →
    OperatingSystem.rename change os = .error e → ∀ json,
      (run json).result = .error (.failure e) ∧ (run json).os = os ∧
      (run json).session = session.setUpTitle "" ∧
      ((run json).session = session ↔ session.store ≠ none)
  /-- A command without a new title changes nothing. -/
  untouched : (∀ change, command ≠ .title (some change)) → ∀ json,
    (run json).session = session ∧ (run json).os = os
  asked : command = .title none → Prints session.title run
  memory : command = .memory → ∀ json stop, (run json).result = .error stop ↔
    ∃ e, stop = .failure e ∧ FirstMemoryFailure p host e

section

variable {session : Session} {os : σ}

theorem run_of_taken {change : String} {os' : σ}
    (h : OperatingSystem.rename change os = .ok os') (json : Bool) (timing : Timing)
    (p : Platform) (files : Files) :
    (Command.title (some change)).run json timing p files session os =
      ⟨⟨form json (.string change) (change ++ "\n"), [.titleChanged change],
        { session with store := some ⟨change⟩ }, os'⟩, .ok ()⟩ := by
  have hrun := changeTitle_of_taken (s := ⟨"", [], session, os⟩) h json
  rw [run, steps, hrun, String.empty_append]
  rfl

theorem run_of_refused {change : String} {e : Failure}
    (h : OperatingSystem.rename change os = .error e) (json : Bool) (timing : Timing)
    (p : Platform) (files : Files) :
    (Command.title (some change)).run json timing p files session os =
      ⟨⟨"", [], session.setUpTitle "", os⟩, .error (.failure e)⟩ := by
  have hrun := changeTitle_of_refused (s := ⟨"", [], session, os⟩) h json
  rw [run, steps, hrun]

theorem untouched_run {command : Command} (h : ∀ change, command ≠ .title (some change))
    (json : Bool) (timing : Timing) (p : Platform) (files : Files) :
    (command.run json timing p files session os).session = session ∧
      (command.run json timing p files session os).os = os := by
  have hkeeps : Keeps (fun s : Progress σ => (s.session, s.os))
      (command.steps json timing p ⟨files, OperatingSystem.answers os⟩ session) :=
    keeps_steps (fun _ _ => rfl) (fun _ _ => rfl) command
      (fun change heq => absurd heq (h change)) json timing p _ session
  exact Prod.mk.inj (hkeeps ⟨"", [], session, os⟩)

/-- With a title a run that stops changes nothing: only a new title could, and it was refused. -/
theorem unchanged_of_stop {command : Command} {json : Bool} {timing : Timing} {p : Platform}
    {files : Files} {stop : Stop} (hstore : session.store ≠ none)
    (h : (command.run json timing p files session os).result = .error stop) :
    (command.run json timing p files session os).session = session ∧
      (command.run json timing p files session os).os = os := by
  by_cases htitle : ∃ change, command = .title (some change)
  · obtain ⟨change, rfl⟩ := htitle
    cases hrename : OperatingSystem.rename change os with
    | ok os' =>
        rw [run_of_taken hrename] at h
        cases h
    | error e =>
        rw [run_of_refused hrename]
        exact ⟨setUpTitle_eq_self_iff.mpr hstore, rfl⟩
  · exact untouched_run (fun change heq => htitle ⟨change, heq⟩) json timing p files

end

/-- **Commands do all or nothing, in either form.** Asked for JSON and for a report a command comes
to the same result and leaves the same state. If it stops, it has written nothing, and changed
nothing either where the title was set up or changed before; three commands never stop. Only a new
title changes anything. If the system takes it, it is what is written; if not, the title is set up
with the empty text, which is no change unless it never was set up. -/
theorem all_or_nothing (command : Command) (timing : Timing) (p : Platform) (files : Files)
    (session : Session) (os : σ) (hdated : Dated timing p ⟨files, OperatingSystem.answers os⟩) :
    AllOrNothing command p ⟨files, OperatingSystem.answers os⟩ session os
      fun json => command.run json timing p files session os where
  same := (writesLast_steps hdated command session).same ⟨"", [], session, os⟩
  silent json stop hstop := (writesLast_steps hdated command session).of_stop hstop
  stopped hstore json stop hstop := unchanged_of_stop hstore hstop
  neverFails h json := steps_of_neverFails hdated h json session ⟨"", [], session, os⟩
  taken := by
    rintro change os' rfl hrename
    refine ⟨.of_form fun json => ?_, fun json => ?_⟩
    · rw [run_of_taken hrename]
    · rw [run_of_taken hrename]
      exact ⟨rfl, rfl, rfl⟩
  refused := by
    rintro change e rfl hrename json
    rw [run_of_refused hrename]
    exact ⟨rfl, rfl, rfl, setUpTitle_eq_self_iff⟩
  untouched h json := untouched_run h json timing p files
  asked := by
    rintro rfl
    refine .of_form fun json => ?_
    rw [run, steps, showTitle_apply, String.empty_append]
  memory := by
    rintro rfl json stop
    exact runMemory_stops_iff json p _ _ stop

/-- A command on a simulated system without files. -/
def runOnBare (session : Session) (os : Simulated) (command : Command) (json : Bool) :
    Outcome Simulated :=
  command.run json ⟨1700000000000, 0⟩ ⟨Platform.defaultRoots, .monotonic⟩ Fixture.empty.files
    session os

/-- A title with quotes in it, taken and refused, and the memory without the file it is read
from. -/
theorem all_or_nothing_bare :
    let named := Session.fresh.setUpTitle "node"
    let change := Command.title (some "say \"hi\"")
    (Dated ⟨1700000000000, 0⟩ ⟨Platform.defaultRoots, .monotonic⟩
        ⟨Fixture.empty.files, OperatingSystem.answers Simulated.standard⟩ ∧
      Dated ⟨1700000000000, 0⟩ ⟨Platform.defaultRoots, .monotonic⟩
        ⟨Fixture.empty.files, OperatingSystem.answers unable⟩) ∧
    (∀ json, (runOnBare named .standard change json).session = ⟨none, some ⟨"say \"hi\""⟩⟩) ∧
    (runOnBare named .standard change false).output = "say \"hi\"\n" ∧
    (runOnBare named .standard change true).output = "\"say \\\"hi\\\"\"\n" ∧
    (∃ text, "\"say \\\"hi\\\"\"\n" = text ++ "\n" ∧
      Json.ofText? text = some (.string "say \"hi\"")) ∧
    (∀ json, (runOnBare named unable change json).session = named) ∧
    (∀ json, (runOnBare .fresh unable change json).session ≠ .fresh) ∧
    ∀ json, (runOnBare named .standard .memory json).output = "" := by
  intro named change
  have hstandard : Dated ⟨1700000000000, 0⟩ ⟨Platform.defaultRoots, .monotonic⟩
      ⟨Fixture.empty.files, OperatingSystem.answers Simulated.standard⟩ :=
    .inr (by decide +kernel)
  have hunable : Dated ⟨1700000000000, 0⟩ ⟨Platform.defaultRoots, .monotonic⟩
      ⟨Fixture.empty.files, OperatingSystem.answers unable⟩ :=
    .inr (by decide +kernel)
  have htaken := all_or_nothing change _ _ _ named Simulated.standard hstandard
  have hrefused := all_or_nothing change _ _ _ named unable hunable
  have hfresh := all_or_nothing change _ _ _ .fresh unable hunable
  have hmemory := all_or_nothing .memory _ _ _ named Simulated.standard hstandard
  obtain ⟨hprints, hdone⟩ := htaken.taken _ _ rfl rfl
  have hjson : (runOnBare named .standard change true).output = "\"say \\\"hi\\\"\"\n" := by
    decide +kernel
  refine ⟨⟨hstandard, hunable⟩, fun json => (hdone json).2.1, hprints.line, hjson, ?_,
    fun json => ?_, fun json => ?_, fun json => ?_⟩
  · rw [← hjson]
    exact hprints.json
  · exact (hrefused.stopped nofun json _ (hrefused.refused _ _ rfl rfl json).1).1
  · exact fun h => (hfresh.refused _ _ rfl rfl json).2.2.2.mp h rfl
  · exact (hmemory.silent json _ ((hmemory.memory rfl json _).mpr ⟨_, rfl, .process rfl⟩)).1

/-- A refused title is a change where none was set up: the first title comes too late then. -/
theorem refused_title_leaves_store :
    let run := runOnBare .fresh unable (.title (some "worker")) false
    Dated ⟨1700000000000, 0⟩ ⟨Platform.defaultRoots, .monotonic⟩
      ⟨Fixture.empty.files, OperatingSystem.answers unable⟩ ∧
    run.result = .error (.failure (.unsupported "setting the process title")) ∧
    run.session ≠ .fresh ∧
    (run.session.setUpTitle "node").title = "" ∧
    (Session.fresh.setUpTitle "node").title = "node" := by
  intro run
  exact ⟨.inr (by decide +kernel), rfl, by decide, rfl, rfl⟩

end Command

end HostInfo.CommandLine
