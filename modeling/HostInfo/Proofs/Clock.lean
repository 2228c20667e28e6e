import HostInfo.Clock
import HostInfo.Proofs.Binary64

/-!
# Readings of the clocks

An uptime is a finite number without a sign, or the negative one that stands for an uptime that is
not known; so the two cannot be taken for each other.
-/

namespace HostInfo

open Binary64

theorem unsigned_ofNat_uint64 (n : UInt64) : Unsigned (ofNat n.toNat) := by
  obtain ⟨q, hq, -⟩ := ofNat_of_le (n := n.toNat) (k := 64) (by decide) (Nat.le_of_lt n.toNat_lt)
  exact ⟨q, hq⟩

theorem Instant.unsigned_toBinary64 (t : Instant) : Unsigned t.toBinary64 := by
  obtain ⟨s, hs, hsle⟩ := ofNat_of_le (n := t.seconds.toNat) (k := 64) (by decide)
    (Nat.le_of_lt t.seconds.toNat_lt)
  obtain ⟨n, hn, hnle⟩ := ofNat_of_le (n := t.nanoseconds.toNat) (k := 32) (by decide)
    (Nat.le_of_lt t.nanoseconds.toNat_lt)
  obtain ⟨d, hd, hcount⟩ := ofNat_of_lt (n := 1000000000) (by decide)
  have hone : 0 < one := one_quanta_pos
  have hbillion : one ≤ d.count := hcount ▸ Nat.le_mul_of_pos_left one (by decide)
  obtain ⟨f, hf, hfle⟩ := div_of_le (p := n) (q := d) (onGrid_two_pow_mul_one (k := 32) (by decide))
    (by omega) (Nat.mul_le_mul hnle hbillion)
  obtain ⟨r, hr, -⟩ := add_of_le (p := s) (q := f) (onGrid_two_pow_mul_one (k := 65) (by decide))
    (by omega)
  refine ⟨r, ?_⟩
  rw [Instant.toBinary64, hs, hn]
  change finite false s + finite false n / ofNat 1000000000 = _
  rw [hd, hf, hr]

theorem unknownUptime_eq : ∃ q : Quanta, unknownUptime = finite true q ∧ 0 < q.count := by
  obtain ⟨q, hq, hcount⟩ := ofNat_of_lt (n := 1) (by decide)
  refine ⟨q, ?_, ?_⟩
  · change neg (ofNat 1) = finite true q
    rw [hq, neg, Bool.not_false]
  · rw [hcount, Nat.one_mul]
    exact one_quanta_pos

theorem unknownUptime_lt_zero : unknownUptime < 0 := by
  obtain ⟨q, hq, hpos⟩ := unknownUptime_eq
  rw [hq, zero_eq, zero, finite_lt_finite_iff]
  simpa using hpos

theorem not_zero_le_unknownUptime : ¬ 0 ≤ unknownUptime := by
  obtain ⟨q, hq, hpos⟩ := unknownUptime_eq
  rw [hq, zero_le_finite_iff]
  simpa using Nat.ne_of_gt hpos

/-- A number of seconds that a clock shows, or the one that stands for an unknown uptime. -/
def IsUptime (x : Binary64) : Prop := x = unknownUptime ∨ Unsigned x

theorem IsUptime.lt_zero_iff {x : Binary64} (h : IsUptime x) : x < 0 ↔ x = unknownUptime := by
  constructor
  · intro hneg
    exact h.resolve_right fun hx => hx.not_lt_zero hneg
  · intro hx
    rw [hx]
    exact unknownUptime_lt_zero

theorem IsUptime.not_zero_le {x : Binary64} (h : IsUptime x) (hx : x < 0) : ¬ 0 ≤ x := by
  rw [h.lt_zero_iff.mp hx]
  exact not_zero_le_unknownUptime

theorem IsUptime.unsigned_of_not_lt_zero {x : Binary64} (h : IsUptime x) (hx : ¬ x < 0) :
    Unsigned x :=
  h.resolve_left fun heq => hx (heq ▸ unknownUptime_lt_zero)

namespace UptimeSource

theorem unsigned_of_reading {source : UptimeSource} {os : Os} {x : Binary64}
    (h : source.reading? os = some x) : Unsigned x := by
  cases source with
  | monotonic =>
      obtain ⟨t, -, rfl⟩ := Option.map_eq_some_iff.mp h
      exact t.unsigned_toBinary64
  | status =>
      obtain ⟨s, -, rfl⟩ := Option.map_eq_some_iff.mp h
      exact unsigned_ofNat_uint64 s.uptime
  | unavailable => cases h

theorem uptime_of_reading {source : UptimeSource} {os : Os} {x : Binary64}
    (h : source.reading? os = some x) : source.uptime os = x := by
  rw [uptime, h, Option.getD_some]

theorem uptime_of_no_reading {source : UptimeSource} {os : Os} (h : source.reading? os = none) :
    source.uptime os = unknownUptime := by
  rw [uptime, h, Option.getD_none]

theorem isUptime_uptime (source : UptimeSource) (os : Os) : IsUptime (source.uptime os) := by
  cases h : source.reading? os with
  | none => exact .inl (uptime_of_no_reading h)
  | some x => exact .inr (uptime_of_reading h ▸ unsigned_of_reading h)

/-- What the first clock shows that can be read. -/
def firstReading (os : Os) : Binary64 :=
  match os.monotonic, os.status with
  | .ok t, _ => t.toBinary64
  | .error _, .ok s => Binary64.ofNat s.uptime.toNat
  | .error _, .error _ => -1

theorem uptime_detect (os : Os) : (detect os).uptime os = firstReading os := by
  unfold detect firstReading
  cases hmonotonic : os.monotonic with
  | ok t =>
      simp only [Except.isOk, Except.toBool, if_true]
      refine uptime_of_reading ?_
      rw [reading?, hmonotonic, Except.toOption, Option.map_some]
  | error e =>
      cases hstatus : os.status with
      | ok s =>
          simp only [Except.isOk, Except.toBool, if_true, Bool.false_eq_true, if_false]
          refine uptime_of_reading ?_
          rw [reading?, hstatus, Except.toOption, Option.map_some]
      | error e =>
          simp only [Except.isOk, Except.toBool, Bool.false_eq_true, if_false]
          rw [uptime_of_no_reading rfl, unknownUptime]

end UptimeSource

end HostInfo
