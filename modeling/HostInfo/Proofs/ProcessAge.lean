import Mathlib.Logic.Function.Basic
import HostInfo.Files.Fixture
import HostInfo.Os.Simulated
import HostInfo.Proofs.Clock
import HostInfo.Proofs.Command

/-!
# The start of the process and its age

One process with any number of platforms, each looking at a machine of its own. Clocks come, go and
step back, titles are changed, and commands ask all queries, in any order. The start is the uptime
that the first platform reads when it is attached, and stays that for ever. The age that any
platform gives is unknown exactly if one of the two readings is, and else between zero and the
uptime of that platform, also where the start was read from another clock.
-/

namespace HostInfo.ProcessAge

open CommandLine ProcessTitle

/-! ## Actions -/

structure Machine (σ : Type) where
  files : Files
  os : σ

structure Attached where
  platform : Platform
  /-- The machine that the platform looks at. -/
  machine : Nat

structure State (σ : Type) where
  session : Session
  machines : Nat → Machine σ
  /-- The platforms, oldest first. -/
  attached : List Attached

inductive Action (σ : Type) where
  /-- A machine becomes another one: its clocks, its files, and all else. -/
  | change (machine : Nat) (now : Machine σ)
  | attach (roots : Cpu.Roots) (machine : Nat)
  | setUpTitle (title : String)
  | setTitle (machine : Nat) (title : String)
  /-- Runs a command against the platform with this number, if there is one. -/
  | run (platform : Nat) (command : Command) (json : Bool) (timing : Timing)

/-- The action makes a platform. -/
def Action.Attaches {σ : Type} (action : Action σ) : Prop := ∃ roots i, action = .attach roots i

variable {σ : Type} [OperatingSystem σ]

def Machine.host (m : Machine σ) : Host := ⟨m.files, OperatingSystem.answers m.os⟩

/-- Before the process has done anything. -/
def initial (machines : Nat → Machine σ) : State σ := ⟨.fresh, machines, []⟩

/-- The session, and the system of one machine, after one of the calls that change them. -/
def State.after (s : State σ) (session : Session) (i : Nat) (os : σ) : State σ :=
  { s with session, machines := Function.update s.machines i { s.machines i with os } }

def step (s : State σ) : Action σ → State σ
  | .change i now => { s with machines := Function.update s.machines i now }
  | .attach roots i =>
    let (platform, session) := Platform.attach roots (s.machines i).host.os s.session
    { s with session, attached := s.attached ++ [⟨platform, i⟩] }
  | .setUpTitle title => { s with session := s.session.setUpTitle title }
  | .setTitle i title =>
    let (_, session, os) := s.session.setTitle title (s.machines i).os
    s.after session i os
  | .run k command json timing =>
    match s.attached[k]? with
    | none => s
    | some a =>
      let m := s.machines a.machine
      let outcome := command.run json timing a.platform m.files s.session m.os
      s.after outcome.session a.machine outcome.os

/-- The state after all actions. -/
def run (s : State σ) (actions : List (Action σ)) : State σ := actions.foldl step s

/-! ## What keeps the start -/

theorem start_run_command (command : Command) (json : Bool) (timing : Timing) (p : Platform)
    (files : Files) (session : Session) (os : σ) :
    (command.run json timing p files session os).session.start = session.start := by
  have hkeeps : Run.Keeps (fun s : Progress σ => s.session.start)
      (command.steps json timing p ⟨files, OperatingSystem.answers os⟩ session) :=
    Command.keeps_steps (fun _ _ => rfl) (fun _ _ => rfl) command
      (fun change _ => .setTitle_start change) json timing p _ session
  exact hkeeps ⟨"", [], session, os⟩

theorem start_recordStart (s : Session) (uptime : Binary64) :
    (s.recordStart uptime).start = some (s.start.getD uptime) := by
  unfold Session.recordStart
  cases h : s.start with
  | none => rfl
  | some start => exact h

/-! ## One action -/

theorem step_attach (s : State σ) (roots : Cpu.Roots) (i : Nat) :
    (step s (.attach roots i)).session.start =
      some (s.session.start.getD (UptimeSource.firstReading (s.machines i).host.os)) := by
  rw [← UptimeSource.uptime_detect]
  exact start_recordStart s.session _

theorem step_of_not_attaches {s : State σ} {action : Action σ} (h : ¬ action.Attaches) :
    (step s action).session.start = s.session.start ∧ (step s action).attached = s.attached := by
  cases action with
  | change i now => exact ⟨rfl, rfl⟩
  | attach roots i => exact absurd ⟨roots, i, rfl⟩ h
  | setUpTitle title => exact ⟨start_setUpTitle s.session title, rfl⟩
  | setTitle i title => exact ⟨start_setTitle s.session title (s.machines i).os, rfl⟩
  | run k command json timing =>
      unfold step
      dsimp only
      split
      · exact ⟨rfl, rfl⟩
      · exact ⟨start_run_command .., rfl⟩

theorem start_step_of_some {s : State σ} {start : Binary64} (h : s.session.start = some start)
    (action : Action σ) : (step s action).session.start = some start := by
  by_cases hattach : action.Attaches
  · obtain ⟨roots, i, rfl⟩ := hattach
    rw [step_attach, h, Option.getD_some]
  · rw [(step_of_not_attaches hattach).1, h]

/-- The start is an uptime, and known as soon as there is a platform. -/
structure Started (s : State σ) : Prop where
  isUptime : ∀ start, s.session.start = some start → IsUptime start
  known : s.attached ≠ [] → ∃ start, s.session.start = some start

theorem Started.step {s : State σ} (h : Started s) (action : Action σ) :
    Started (step s action) := by
  by_cases hattach : action.Attaches
  · obtain ⟨roots, i, rfl⟩ := hattach
    have hstart := step_attach s roots i
    refine ⟨?_, fun _ => ⟨_, hstart⟩⟩
    intro start heq
    rw [hstart, Option.some_inj] at heq
    cases hbefore : s.session.start with
    | none =>
        rw [hbefore, Option.getD_none, ← UptimeSource.uptime_detect] at heq
        exact heq ▸ UptimeSource.isUptime_uptime _ _
    | some first =>
        rw [hbefore, Option.getD_some] at heq
        exact heq ▸ h.isUptime first hbefore
  · obtain ⟨hstart, hattached⟩ := step_of_not_attaches (s := s) hattach
    constructor
    · rw [hstart]
      exact h.isUptime
    · rw [hstart, hattached]
      exact h.known

/-! ## Whole runs -/

theorem run_cons (s : State σ) (action : Action σ) (actions : List (Action σ)) :
    run s (action :: actions) = run (step s action) actions := rfl

theorem run_append (s : State σ) (front back : List (Action σ)) :
    run s (front ++ back) = run (run s front) back := by
  rw [run, List.foldl_append]
  rfl

theorem Started.run {s : State σ} (h : Started s) (actions : List (Action σ)) :
    Started (run s actions) := by
  induction actions generalizing s with
  | nil => exact h
  | cons action actions ih => exact ih (h.step action)

omit [OperatingSystem σ] in
theorem started_initial (machines : Nat → Machine σ) : Started (initial machines) := by
  constructor
  · intro start h
    cases h
  · intro h
    exact absurd rfl h

theorem start_run_of_some {s : State σ} {start : Binary64} (h : s.session.start = some start)
    (actions : List (Action σ)) : (run s actions).session.start = some start := by
  induction actions generalizing s with
  | nil => exact h
  | cons action actions ih => exact ih (start_step_of_some h action)

theorem start_run_of_no_attach {s : State σ} {actions : List (Action σ)}
    (h : ∀ action ∈ actions, ¬ action.Attaches) :
    (run s actions).session.start = s.session.start := by
  induction actions generalizing s with
  | nil => rfl
  | cons action actions ih =>
      obtain ⟨hfirst, hrest⟩ := List.forall_mem_cons.mp h
      rw [run_cons, ih hrest, (step_of_not_attaches hfirst).1]

/-- From the first platform on the start is what that one read. -/
theorem start_run_of_first_attach (machines : Nat → Machine σ) {before : List (Action σ)}
    (h : ∀ action ∈ before, ¬ action.Attaches) (roots : Cpu.Roots) (i : Nat)
    (after : List (Action σ)) :
    (run (initial machines) (before ++ .attach roots i :: after)).session.start =
      some (UptimeSource.firstReading ((run (initial machines) before).machines i).host.os) := by
  rw [run_append, run_cons]
  refine start_run_of_some ?_ after
  rw [step_attach, start_run_of_no_attach h]
  rfl

theorem start_run_eq_none_iff (machines : Nat → Machine σ) (actions : List (Action σ)) :
    (run (initial machines) actions).session.start = none ↔
      ∀ action ∈ actions, ¬ action.Attaches := by
  constructor
  · intro hnone action hmem hattach
    obtain ⟨before, after, rfl⟩ := List.append_of_mem hmem
    obtain ⟨roots, i, rfl⟩ := hattach
    have hstep := step_attach (run (initial machines) before) roots i
    rw [run_append, run_cons, start_run_of_some hstep after] at hnone
    cases hnone
  · intro h
    rw [start_run_of_no_attach h]
    rfl

/-! ## The age -/

/-- What an age is, given the start and the present uptime. -/
structure AgeBetween (start now age : Binary64) : Prop where
  unknown_iff : age = -1 ↔ start < 0 ∨ now < 0
  bounds : ¬ (start < 0 ∨ now < 0) → 0 ≤ age ∧ age ≤ now

theorem ageBetween_processAge {p : Platform} {host : Host} {session : Session} {start : Binary64}
    (hstart : session.start = some start) (h : IsUptime start) :
    AgeBetween start (p.uptime host) (p.processAge host session) := by
  have hnow : IsUptime (p.uptime host) := UptimeSource.isUptime_uptime _ _
  have hage : p.processAge host session =
      if 0 ≤ start ∧ 0 ≤ p.uptime host then max (p.uptime host - start) 0
      else unknownUptime := by
    rw [Platform.processAge, hstart]
  rw [hage]
  by_cases hneg : start < 0 ∨ p.uptime host < 0
  · have hif : ¬ (0 ≤ start ∧ 0 ≤ p.uptime host) := by
      rintro ⟨hs, hn⟩
      rcases hneg with hs' | hn'
      · exact h.not_zero_le hs' hs
      · exact hnow.not_zero_le hn' hn
    rw [if_neg hif]
    exact ⟨⟨fun _ => hneg, fun _ => rfl⟩, fun hnot => absurd hneg hnot⟩
  · have hs := h.unsigned_of_not_lt_zero (fun hlt => hneg (.inl hlt))
    have hn := hnow.unsigned_of_not_lt_zero (fun hlt => hneg (.inr hlt))
    rw [if_pos ⟨hs.zero_le, hn.zero_le⟩]
    have hbounds := Binary64.max_sub_bounds hn hs
    refine ⟨⟨fun hunknown => ?_, fun hlt => absurd hlt hneg⟩, fun _ => hbounds⟩
    -- the age is not negative, so it is not the one that stands for an unknown age
    rw [hunknown] at hbounds
    exact absurd hbounds.1 not_zero_le_unknownUptime

/-- **The start is recorded once, and every age is well formed.** There is no start before the
first platform is attached; from then on it is what the first clock showed that could be read then,
-1 if there was none. At every moment the age that a platform gives is -1 exactly if the start or
the platform's uptime is negative, and else from zero to that uptime. -/
theorem start_once_and_age (machines : Nat → Machine σ) (actions : List (Action σ)) :
    ((run (initial machines) actions).session.start = none ↔
      ∀ action ∈ actions, ¬ action.Attaches) ∧
    (∀ before roots i after, actions = before ++ .attach roots i :: after →
      (∀ action ∈ before, ¬ action.Attaches) →
      (run (initial machines) actions).session.start =
        some (UptimeSource.firstReading ((run (initial machines) before).machines i).host.os)) ∧
    (∀ a ∈ (run (initial machines) actions).attached, ∃ start,
      (run (initial machines) actions).session.start = some start ∧
      AgeBetween start
        (a.platform.uptime ((run (initial machines) actions).machines a.machine).host)
        (a.platform.processAge ((run (initial machines) actions).machines a.machine).host
          (run (initial machines) actions).session)) := by
  refine ⟨start_run_eq_none_iff machines actions, ?_, ?_⟩
  · rintro before roots i after rfl h
    exact start_run_of_first_attach machines h roots i after
  · intro a ha
    have hstarted : Started (run (initial machines) actions) :=
      (started_initial machines).run actions
    obtain ⟨start, hstart⟩ := hstarted.known (List.ne_nil_of_mem ha)
    exact ⟨start, hstart, ageBetween_processAge hstart (hstarted.isUptime start hstart)⟩

/-- Two machines: one with both clocks, the other with the coarse one only. -/
def twoMachines : Nat → Machine Simulated
  | 0 => ⟨Fixture.empty.files, .standard⟩
  | _ => ⟨Fixture.empty.files, { Simulated.standard with monotonic := none }⟩

/-- A platform for each of the machines; in between the first clock vanishes. -/
def twoPlatforms : List (Action Simulated) :=
  [.setUpTitle "node", .attach Platform.defaultRoots 0, .change 0 (twoMachines 1),
    .attach Platform.defaultRoots 1, .run 1 .uptime true ⟨0, 0⟩]

theorem start_once_and_age_twoPlatforms :
    (run (initial twoMachines) twoPlatforms).session.start =
      some (Instant.toBinary64 ⟨12345, 670000000⟩) ∧
    ∃ start, (run (initial twoMachines) twoPlatforms).session.start = some start ∧
      AgeBetween start (UptimeSource.status.uptime (twoMachines 1).host.os)
        (Platform.processAge ⟨Platform.defaultRoots, .status⟩ (twoMachines 1).host
          (run (initial twoMachines) twoPlatforms).session) := by
  obtain ⟨-, hstart, hage⟩ := start_once_and_age twoMachines twoPlatforms
  refine ⟨?_, ?_⟩
  · refine hstart [.setUpTitle "node"] Platform.defaultRoots 0 (twoPlatforms.drop 2) rfl ?_
    rintro action h ⟨roots, i, rfl⟩
    simp at h
  · exact hage ⟨⟨Platform.defaultRoots, .status⟩, 1⟩ (List.mem_of_getElem? (i := 1) rfl)

end HostInfo.ProcessAge
