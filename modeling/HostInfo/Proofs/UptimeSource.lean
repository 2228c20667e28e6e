import HostInfo.Proofs.Except
import HostInfo.Proofs.ProcessAge

/-!
# The clock behind an uptime

A platform settles on a clock when it is attached: the first one that can be read at that moment.
Whatever happens afterwards, it keeps that clock and looks at no other one. Where its clock cannot
be read its uptime is -1, which no clock can show, even if another clock could be read.
-/

namespace HostInfo

namespace UptimeSource

/-! ## Clocks at one moment -/

/-- The clock can be read, and shows `x` seconds. -/
inductive Shows (os : Os) : UptimeSource → Binary64 → Prop where
  | monotonic {t : Instant} : os.monotonic = .ok t →
      Shows os .monotonic
        (Binary64.ofNat t.seconds.toNat + Binary64.ofNat t.nanoseconds.toNat / 1000000000)
  | status {s : SystemStatus} : os.status = .ok s →
      Shows os .status (Binary64.ofNat s.uptime.toNat)

/-- The first clock that can be read, the finer one before the coarse one. -/
inductive FirstReadable (os : Os) : UptimeSource → Prop where
  | monotonic {t : Instant} : os.monotonic = .ok t → FirstReadable os .monotonic
  | status {e : Failure} {s : SystemStatus} : os.monotonic = .error e → os.status = .ok s →
      FirstReadable os .status
  | unavailable {e e' : Failure} : os.monotonic = .error e → os.status = .error e' →
      FirstReadable os .unavailable

theorem firstReadable_iff {os : Os} {source : UptimeSource} :
    FirstReadable os source ↔ source = detect os := by
  constructor
  · rintro (hmonotonic | ⟨hmonotonic, hstatus⟩ | ⟨hmonotonic, hstatus⟩)
    · rw [detect, hmonotonic]
      rfl
    · rw [detect, hmonotonic, hstatus]
      rfl
    · rw [detect, hmonotonic, hstatus]
      rfl
  · rintro rfl
    unfold detect
    cases hmonotonic : os.monotonic with
    | ok t => exact .monotonic hmonotonic
    | error e =>
        cases hstatus : os.status with
        | ok s => exact .status hmonotonic hstatus
        | error e' => exact .unavailable hmonotonic hstatus

theorem reading?_eq_some_iff {source : UptimeSource} {os : Os} {x : Binary64} :
    source.reading? os = some x ↔ Shows os source x := by
  constructor
  · intro h
    cases source with
    | monotonic =>
        obtain ⟨t, ht, rfl⟩ := Option.map_eq_some_iff.mp h
        exact .monotonic (Except.eq_ok_of_toOption ht)
    | status =>
        obtain ⟨s, hs, rfl⟩ := Option.map_eq_some_iff.mp h
        exact .status (Except.eq_ok_of_toOption hs)
    | unavailable => cases h
  · rintro (ht | hs)
    · rw [reading?, ht]
      rfl
    · rw [reading?, hs]
      rfl

/-- The uptime is what the clock shows, and -1 exactly where it shows nothing. -/
structure Follows (os : Os) (source : UptimeSource) (uptime : Binary64) : Prop where
  reading : ∀ x, Shows os source x → uptime = x
  unknown_iff : uptime = -1 ↔ ∀ x, ¬ Shows os source x

theorem follows_uptime (source : UptimeSource) (os : Os) :
    Follows os source (source.uptime os) := by
  have hreading : ∀ x, Shows os source x → source.uptime os = x := by
    intro x hx
    exact uptime_of_reading (reading?_eq_some_iff.mpr hx)
  refine ⟨hreading, ?_⟩
  constructor
  · intro hunknown x hx
    -- no clock shows a number below zero
    have hunsigned : Binary64.Unsigned x := unsigned_of_reading (reading?_eq_some_iff.mpr hx)
    rw [← hreading x hx, hunknown] at hunsigned
    exact not_zero_le_unknownUptime hunsigned.zero_le
  · intro hnone
    have hreading? : source.reading? os = none := by
      rw [Option.eq_none_iff_forall_ne_some]
      intro x hx
      exact hnone x (reading?_eq_some_iff.mp hx)
    exact uptime_of_no_reading hreading?

/-- The uptime depends on the clock alone. -/
theorem Follows.unique {os os' : Os} {source : UptimeSource} {uptime uptime' : Binary64}
    (h : Follows os source uptime) (h' : Follows os' source uptime')
    (hshows : ∀ x, Shows os source x ↔ Shows os' source x) : uptime = uptime' := by
  by_cases hreadable : ∃ x, Shows os source x
  · obtain ⟨x, hx⟩ := hreadable
    rw [h.reading x hx, h'.reading x ((hshows x).mp hx)]
  · have hnone : ∀ x, ¬ Shows os source x := fun x hx => hreadable ⟨x, hx⟩
    have hnone' : ∀ x, ¬ Shows os' source x := fun x hx => hnone x ((hshows x).mpr hx)
    rw [h.unknown_iff.mpr hnone, h'.unknown_iff.mpr hnone']

end UptimeSource

namespace ProcessAge

open UptimeSource

variable {σ : Type} [OperatingSystem σ]

/-! ## Platforms over whole runs -/

theorem attached_prefix_step (s : State σ) (action : Action σ) :
    s.attached <+: (step s action).attached := by
  by_cases hattach : action.Attaches
  · obtain ⟨roots, i, rfl⟩ := hattach
    exact List.prefix_append _ _
  · have hsame : (step s action).attached = s.attached := (step_of_not_attaches hattach).2
    exact hsame ▸ List.prefix_refl _

/-- A platform is never lost, and nothing of it is ever changed. -/
theorem attached_prefix_run (s : State σ) (actions : List (Action σ)) :
    s.attached <+: (run s actions).attached := by
  induction actions generalizing s with
  | nil => exact List.prefix_refl _
  | cons action actions ih => exact (attached_prefix_step s action).trans (ih (step s action))

/-- The answers of the system of machine `i`. -/
def State.os (s : State σ) (i : Nat) : Os := (s.machines i).host.os

/-- The process after it has attached a platform to machine `i` and gone on. -/
def State.attachedThen (s : State σ) (roots : Cpu.Roots) (i : Nat) (after : List (Action σ)) :
    State σ :=
  run s (.attach roots i :: after)

/-- The new platform is the one with the next number. -/
theorem attached_attachedThen (s : State σ) (roots : Cpu.Roots) (i : Nat)
    (after : List (Action σ)) :
    (s.attachedThen roots i after).attached[s.attached.length]? =
      some ⟨⟨roots, detect (s.os i)⟩, i⟩ := by
  -- what is attached right now stays at the front of what is attached ever after
  have hprefix := attached_prefix_run (step s (.attach roots i)) after
  have hlast : (step s (.attach roots i)).attached =
      s.attached ++ [⟨⟨roots, detect (s.os i)⟩, i⟩] := rfl
  obtain ⟨rest, hrest⟩ := hprefix
  rw [State.attachedThen, run_cons, ← hrest, hlast, List.append_assoc,
    List.getElem?_append_right (Nat.le_refl _), Nat.sub_self]
  rfl

/-- The clock of the platform with number `k`. -/
def State.source (s : State σ) (k : Nat) : Option UptimeSource :=
  s.attached[k]?.map fun a => a.platform.source

/-- What the platform with number `k` gives as its uptime. -/
def State.uptime (s : State σ) (k : Nat) : Option Binary64 :=
  s.attached[k]?.map fun a => a.platform.uptime (s.machines a.machine).host

theorem source_attachedThen (s : State σ) (roots : Cpu.Roots) (i : Nat)
    (after : List (Action σ)) :
    (s.attachedThen roots i after).source s.attached.length = some (detect (s.os i)) := by
  rw [State.source, attached_attachedThen]
  rfl

theorem uptime_attachedThen (s : State σ) (roots : Cpu.Roots) (i : Nat)
    (after : List (Action σ)) :
    (s.attachedThen roots i after).uptime s.attached.length =
      some ((detect (s.os i)).uptime ((s.attachedThen roots i after).os i)) := by
  rw [State.uptime, attached_attachedThen]
  rfl

/-- **A platform keeps to the clock that it found.** Its clock is for ever the first one that could
be read when the platform was attached, and its uptime is always what that clock shows, -1 exactly
where it shows nothing. Two platforms whose clocks are of one kind and show the same give the same
uptime, whatever other clocks show. -/
theorem keeps_to_one_clock (s : State σ) (roots : Cpu.Roots) (i : Nat) :
    ∃ source, FirstReadable (s.os i) source ∧ ∀ after,
      (s.attachedThen roots i after).source s.attached.length = some source ∧
      (∃ uptime, (s.attachedThen roots i after).uptime s.attached.length = some uptime ∧
        Follows ((s.attachedThen roots i after).os i) source uptime) ∧
      ∀ (s' : State σ) (roots' : Cpu.Roots) (i' : Nat) (after' : List (Action σ)),
        FirstReadable (s'.os i') source →
        (∀ x, Shows ((s.attachedThen roots i after).os i) source x ↔
          Shows ((s'.attachedThen roots' i' after').os i') source x) →
        (s.attachedThen roots i after).uptime s.attached.length =
          (s'.attachedThen roots' i' after').uptime s'.attached.length := by
  refine ⟨detect (s.os i), firstReadable_iff.mpr rfl, fun after => ⟨?_, ?_, ?_⟩⟩
  · exact source_attachedThen s roots i after
  · exact ⟨_, uptime_attachedThen s roots i after, follows_uptime _ _⟩
  · intro s' roots' i' after' hfirst hshows
    have hsource : detect (s.os i) = detect (s'.os i') := firstReadable_iff.mp hfirst
    have hequal := (follows_uptime (detect (s.os i)) ((s.attachedThen roots i after).os i)).unique
      (follows_uptime (detect (s.os i)) ((s'.attachedThen roots' i' after').os i')) hshows
    rw [uptime_attachedThen, uptime_attachedThen, hequal, ← hsource]

/-- A machine without clocks. -/
def clockless : Machine Simulated :=
  ⟨Fixture.empty.files, { Simulated.standard with monotonic := none, status := none }⟩

/-- After a platform was attached, the machine loses the finer clock, or both. -/
def clockLost (now : Machine Simulated) : State Simulated :=
  (initial twoMachines).attachedThen Platform.defaultRoots 0 [.change 0 now]

/-- After a platform was attached to a machine without clocks, both clocks appear. -/
def clockFound : State Simulated :=
  (initial fun _ => clockless).attachedThen Platform.defaultRoots 0 [.change 0 (twoMachines 0)]

theorem keeps_to_one_clock_lost_found :
    (clockLost (twoMachines 1)).source 0 = some .monotonic ∧
    (clockLost (twoMachines 1)).uptime 0 = some (-1) ∧
    (clockLost (twoMachines 1)).uptime 0 = (clockLost clockless).uptime 0 ∧
    clockFound.source 0 = some .unavailable ∧ clockFound.uptime 0 = some (-1) := by
  obtain ⟨source, hfirst, hafter⟩ :=
    keeps_to_one_clock (initial twoMachines) Platform.defaultRoots 0
  obtain rfl : source = .monotonic := firstReadable_iff.mp hfirst
  obtain ⟨hsource, ⟨uptime, huptime, hfollows⟩, htwo⟩ := hafter [.change 0 (twoMachines 1)]
  obtain ⟨source', hfirst', hafter'⟩ :=
    keeps_to_one_clock (initial fun _ => clockless) Platform.defaultRoots 0
  obtain rfl : source' = .unavailable := firstReadable_iff.mp hfirst'
  obtain ⟨hsource', ⟨uptime', huptime', hfollows'⟩, -⟩ := hafter' [.change 0 (twoMachines 0)]
  have hnone : ∀ x, ¬ Shows ((clockLost (twoMachines 1)).os 0) .monotonic x := by
    rintro x ⟨ht⟩
    cases ht
  have hclockless : ∀ x, ¬ Shows ((clockLost clockless).os 0) .monotonic x := by
    rintro x ⟨ht⟩
    cases ht
  have hunavailable : ∀ x, ¬ Shows (clockFound.os 0) .unavailable x := by
    intro x hx
    cases hx
  refine ⟨hsource, ?_, ?_, hsource', ?_⟩
  · rw [hfollows.unknown_iff.mpr hnone] at huptime
    exact huptime
  · exact htwo (initial twoMachines) Platform.defaultRoots 0 [.change 0 clockless] hfirst
      fun x => ⟨fun hx => absurd hx (hnone x), fun hx => absurd hx (hclockless x)⟩
  · rw [hfollows'.unknown_iff.mpr hunavailable] at huptime'
    exact huptime'

end ProcessAge

end HostInfo
