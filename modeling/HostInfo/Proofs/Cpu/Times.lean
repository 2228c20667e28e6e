import HostInfo.Proofs.Cpu.Cores

/-!
# Times that never run back

Counters are multiplied before they are divided, so a time is the whole number of milliseconds in
its counter as long as the product fits 64 bits, and never more than that. Saturated addition
depends neither on the order nor on the brackets. Both steps are monotone: if no counter of a core
is less than before, then none of its times is, and neither is their total.
-/

namespace HostInfo

theorem toNat_saturated (n : Nat) : (saturated n).toNat = min n (2 ^ 64 - 1) := by
  rw [saturated, UInt64.toNat_ofNat_of_lt']
  exact Nat.lt_of_le_of_lt (Nat.min_le_right ..) (by decide)

namespace Cpu

/-- The counters of a core, in the order of their columns. -/
def Ticks.counters (t : Ticks) : List UInt64 := [t.user, t.nice, t.system, t.idle, t.irq]

/-- The times of a core, in the order of its counters. -/
def Times.values (t : Times) : List UInt64 := [t.user, t.nice, t.system, t.idle, t.irq]

/-- The sum of 64-bit numbers, which need not fit 64 bits. -/
def sumOf : List UInt64 → Nat
  | [] => 0
  | a :: values => a.toNat + sumOf values

theorem sumOf_append (front back : List UInt64) :
    sumOf (front ++ back) = sumOf front + sumOf back := by
  induction front with
  | nil => exact (Nat.zero_add _).symm
  | cons a front ih => rw [List.cons_append, sumOf, sumOf, ih, Nat.add_assoc]

theorem sumOf_perm {values values' : List UInt64} (h : values.Perm values') :
    sumOf values = sumOf values' := by
  induction h with
  | nil => rfl
  | cons a _ ih => rw [sumOf, sumOf, ih]
  | swap a b values => exact Nat.add_left_comm ..
  | trans _ _ ih ih' => exact ih.trans ih'

/-! ## Conversion -/

/-- The time in whole milliseconds. The greatest 64-bit number stands in for a product that does
not fit. -/
def WholeMillis (rate ticks ms : UInt64) : Prop :=
  (1000 * ticks.toNat < 2 ^ 64 → ms.toNat = 1000 * ticks.toNat / rate.toNat) ∧
  (2 ^ 64 ≤ 1000 * ticks.toNat → ms.toNat = (2 ^ 64 - 1) / rate.toNat)

section Conversion

variable {rate ticks : UInt64}

theorem toNat_millis (ticks rate : UInt64) :
    (millis ticks rate).toNat = min (1000 * ticks.toNat) (2 ^ 64 - 1) / max rate.toNat 1 := by
  rw [millis, UInt64.toNat_div, UInt64.toNat_max, toNat_saturated, Nat.mul_comm]
  rfl

theorem toNat_millis_of_pos (h : 0 < rate) (ticks : UInt64) :
    (millis ticks rate).toNat = min (1000 * ticks.toNat) (2 ^ 64 - 1) / rate.toNat := by
  have hpos : 0 < rate.toNat := UInt64.lt_iff_toNat_lt.mp h
  rw [toNat_millis, Nat.max_eq_left hpos]

theorem millis_zero (ticks : UInt64) : millis ticks 0 = millis ticks 1 := rfl

theorem wholeMillis_millis (h : 0 < rate) (ticks : UInt64) :
    WholeMillis rate ticks (millis ticks rate) := by
  rw [WholeMillis, toNat_millis_of_pos h]
  constructor
  · intro hfits
    rw [Nat.min_eq_left (by omega)]
  · intro hexceeds
    rw [Nat.min_eq_right (by omega)]

theorem millis_mul_le (h : 0 < rate) (ticks : UInt64) :
    (millis ticks rate).toNat * rate.toNat ≤ 1000 * ticks.toNat := by
  rw [toNat_millis_of_pos h]
  exact Nat.le_trans (Nat.div_mul_le_self ..) (Nat.min_le_left ..)

/-- A product that fits loses less than one millisecond. -/
theorem lt_millis_succ_mul (h : 0 < rate) (hfits : 1000 * ticks.toNat < 2 ^ 64) :
    1000 * ticks.toNat < ((millis ticks rate).toNat + 1) * rate.toNat := by
  rw [(wholeMillis_millis h ticks).1 hfits, Nat.mul_comm _ rate.toNat]
  exact Nat.lt_mul_div_succ _ (UInt64.lt_iff_toNat_lt.mp h)

theorem millis_mono {ticks ticks' : UInt64} (h : ticks ≤ ticks') (rate : UInt64) :
    millis ticks rate ≤ millis ticks' rate := by
  rw [UInt64.le_iff_toNat_le] at h ⊢
  rw [toNat_millis, toNat_millis]
  apply Nat.div_le_div_right
  omega

end Conversion

theorem values_ofTicks (rate : UInt64) (t : Ticks) :
    (Times.ofTicks rate t).values = t.counters.map (millis · rate) := rfl

/-! ## Totals -/

/-- The terms add up to the number, with saturation, in this order and with some brackets. -/
inductive AddsUp : List UInt64 → UInt64 → Prop
  | term (a : UInt64) : AddsUp [a] a
  | sum {front back : List UInt64} {a b : UInt64} (ha : AddsUp front a) (hb : AddsUp back b) :
      AddsUp (front ++ back) (Times.addSaturated a b)

theorem toNat_addSaturated (a b : UInt64) :
    (Times.addSaturated a b).toNat = min (a.toNat + b.toNat) (2 ^ 64 - 1) := toNat_saturated _

/-- What is cut off on the way is cut off at the end as well. -/
theorem AddsUp.toNat_eq {terms : List UInt64} {a : UInt64} (h : AddsUp terms a) :
    a.toNat = min (sumOf terms) (2 ^ 64 - 1) := by
  -- on the brackets: a sum of two numbers below the limit is cut off once more, or not at all
  induction h with
  | term a =>
      have hlt := a.toNat_lt
      rw [sumOf, sumOf]
      omega
  | sum ha hb iha ihb =>
      rw [toNat_addSaturated, iha, ihb, sumOf_append]
      omega

theorem AddsUp.foldl {front : List UInt64} {a : UInt64} (h : AddsUp front a)
    (terms : List UInt64) : AddsUp (front ++ terms) (terms.foldl Times.addSaturated a) := by
  induction terms generalizing front a with
  | nil => rwa [List.append_nil]
  | cons b terms ih =>
      have hstep := ih (h.sum (.term b))
      rwa [List.append_assoc, List.singleton_append] at hstep

theorem addsUp_total (t : Times) : AddsUp t.values t.total := (AddsUp.term t.user).foldl _

theorem toNat_total (t : Times) : t.total.toNat = min (sumOf t.values) (2 ^ 64 - 1) :=
  (addsUp_total t).toNat_eq

theorem eq_total_of_perm {t : Times} {terms : List UInt64} (hperm : terms.Perm t.values)
    {a : UInt64} (h : AddsUp terms a) : a = t.total := by
  rw [← UInt64.toNat_inj, h.toNat_eq, toNat_total, sumOf_perm hperm]

theorem sumOf_mono {values values' : List UInt64} (h : List.Forall₂ (· ≤ ·) values values') :
    sumOf values ≤ sumOf values' := by
  induction h with
  | nil => exact Nat.le_refl _
  | cons hle _ ih =>
      rw [sumOf, sumOf]
      exact Nat.add_le_add (UInt64.le_iff_toNat_le.mp hle) ih

theorem total_mono {t u : Times} (h : List.Forall₂ (· ≤ ·) t.values u.values) :
    t.total ≤ u.total := by
  have hsum := sumOf_mono h
  rw [UInt64.le_iff_toNat_le, toNat_total, toNat_total]
  omega

/-! ## The error of a total -/

section Error

variable {rate : UInt64}

theorem sumOf_millis_mul_le (h : 0 < rate) (counters : List UInt64) :
    sumOf (counters.map (millis · rate)) * rate.toNat ≤ 1000 * sumOf counters := by
  induction counters with
  | nil => exact Nat.le_of_eq (Nat.zero_mul _)
  | cons n counters ih =>
      have hn := millis_mul_le h n
      rw [List.map_cons, sumOf, sumOf, Nat.add_mul, Nat.mul_add]
      omega

/-- Each term loses less than one millisecond. -/
theorem sumOf_add_length_le (h : 0 < rate) {counters : List UInt64}
    (hfits : ∀ n ∈ counters, 1000 * n.toNat < 2 ^ 64) :
    1000 * sumOf counters + counters.length ≤
      (sumOf (counters.map (millis · rate)) + counters.length) * rate.toNat := by
  induction counters with
  | nil => exact Nat.zero_le _
  | cons n counters ih =>
      have hn := lt_millis_succ_mul h (hfits n (List.mem_cons_self ..))
      have hrest := ih fun m hm => hfits m (List.mem_cons_of_mem _ hm)
      rw [List.map_cons, sumOf, sumOf, List.length_cons]
      simp only [Nat.add_mul] at hn hrest ⊢
      omega

end Error

/-! ## Two reads -/

/-- The host has counters that are accepted, and tells its clock rate. -/
structure Counted (roots : Roots) (files : Files) (os : Os) (rate : UInt64) (ticks : List Ticks) :
    Prop where
  accepted : ∃ text, files.readText roots.countersPath = .ok text ∧ Ticks.ofText text = .ok ticks
  rate : os.clockTicks = .ok rate

/-- The same core later: no counter is less than before. -/
structure Ticks.UpTo (t u : Ticks) : Prop where
  core : t.core = u.core
  counters : List.Forall₂ (· ≤ ·) t.counters u.counters

/-- None of the times is less than before, and neither is their total. -/
structure Times.UpTo (t u : Times) : Prop where
  values : List.Forall₂ (· ≤ ·) t.values u.values
  total : t.total ≤ u.total

/-- What converted times owe to the counters. -/
structure Times.Converted (rate : UInt64) (t : Ticks) (times : Times) : Prop where
  whole : List.Forall₂ (WholeMillis rate) t.counters times.values
  /-- No time exceeds the exact one. -/
  values_le : List.Forall₂ (fun n ms => ms.toNat * rate.toNat ≤ 1000 * n.toNat) t.counters
    times.values
  total : times.total.toNat = min (sumOf times.values) (2 ^ 64 - 1)
  total_of_perm : ∀ terms a, terms.Perm times.values → AddsUp terms a → a = times.total
  total_le : times.total.toNat * rate.toNat ≤ 1000 * sumOf t.counters
  /-- Where nothing is cut off the total is less than five milliseconds short. -/
  lt_total : (∀ n ∈ t.counters, 1000 * n.toNat < 2 ^ 64) → sumOf times.values < 2 ^ 64 →
    1000 * sumOf t.counters < (times.total.toNat + 5) * rate.toNat

theorem upTo_ofTicks {t u : Ticks} (h : t.UpTo u) (rate : UInt64) :
    (Times.ofTicks rate t).UpTo (Times.ofTicks rate u) := by
  have hvalues : List.Forall₂ (· ≤ ·) (Times.ofTicks rate t).values
      (Times.ofTicks rate u).values := by
    rw [values_ofTicks, values_ofTicks, List.forall₂_map_left_iff, List.forall₂_map_right_iff]
    exact h.counters.imp fun _ _ hle => millis_mono hle rate
  exact ⟨hvalues, total_mono hvalues⟩

theorem converted_ofTicks {rate : UInt64} (h : 0 < rate) (t : Ticks) :
    (Times.ofTicks rate t).Converted rate t := by
  constructor
  · rw [values_ofTicks, List.forall₂_map_right_iff, List.forall₂_same]
    exact fun n _ => wholeMillis_millis h n
  · rw [values_ofTicks, List.forall₂_map_right_iff, List.forall₂_same]
    exact fun n _ => millis_mul_le h n
  · exact toNat_total _
  · exact fun terms a hperm hadds => eq_total_of_perm hperm hadds
  · rw [toNat_total, values_ofTicks]
    exact Nat.le_trans (Nat.mul_le_mul_right _ (Nat.min_le_left ..)) (sumOf_millis_mul_le h _)
  · intro hfits hsum
    have hle := sumOf_add_length_le h hfits
    have hpositive : 0 < t.counters.length := Nat.zero_lt_succ 4
    rw [toNat_total, Nat.min_eq_left (Nat.le_sub_one_of_lt hsum), values_ofTicks]
    exact Nat.lt_of_lt_of_le (Nat.lt_add_of_pos_right hpositive) hle

theorem query_of_counted {roots : Roots} {files : Files} {os : Os} {rate : UInt64}
    {ticks : List Ticks} (h : Counted roots files os rate ticks) :
    query roots files os = .ok (ticks.map (recordFor roots files rate)) := by
  obtain ⟨⟨text, hread, hticks⟩, hrate⟩ := h
  exact query_of_accepted hread hticks hrate

/-- **Times never run back.** Of two reads at the same clock rate, if the second lists the same
cores in the same order and none of their counters is less, then no time of the second is less, nor
is any total. At a rate that is not zero each time is the whole number of milliseconds in its
counter, cut off where the product is, and the total is the same in whatever order the times are
added. A rate of zero counts as one. -/
theorem times_never_run_back (roots : Roots) (rate : UInt64) :
    (∀ (f g : Files) (os os' : Os) (ticks ticks' : List Ticks),
      Counted roots f os rate ticks → Counted roots g os' rate ticks' →
      List.Forall₂ Ticks.UpTo ticks ticks' →
      ∃ records records', query roots f os = .ok records ∧ query roots g os' = .ok records' ∧
        List.Forall₂ (fun r r' => r.times.UpTo r'.times) records records') ∧
    (0 < rate → ∀ (f : Files) (os : Os) (ticks : List Ticks), Counted roots f os rate ticks →
      ∃ records, query roots f os = .ok records ∧
        List.Forall₂ (fun t r => r.times.Converted rate t) ticks records) ∧
    ∀ (f : Files) (os : Os) (ticks : List Ticks), Counted roots f os 0 ticks →
      ∃ records, query roots f os = .ok records ∧
        List.Forall₂ (fun t r => r.times.Converted 1 t) ticks records := by
  refine ⟨?_, ?_, ?_⟩
  · intro f g os os' ticks ticks' hf hg hsame
    refine ⟨_, _, query_of_counted hf, query_of_counted hg, ?_⟩
    rw [List.forall₂_map_left_iff, List.forall₂_map_right_iff]
    exact hsame.imp fun t u h => upTo_ofTicks h rate
  · intro hpos f os ticks hf
    refine ⟨_, query_of_counted hf, ?_⟩
    rw [List.forall₂_map_right_iff, List.forall₂_same]
    exact fun t _ => converted_ofTicks hpos t
  · intro f os ticks hf
    refine ⟨_, query_of_counted hf, ?_⟩
    rw [List.forall₂_map_right_iff, List.forall₂_same]
    intro t _
    have htimes : Times.ofTicks 0 t = Times.ofTicks 1 t := by
      simp only [Times.ofTicks, millis_zero]
    change (Times.ofTicks 0 t).Converted 1 t
    rw [htimes]
    exact converted_ofTicks (by decide) t

/-! ## A counter at its end -/

/-- One core, whose third counter cannot grow any more. -/
def fullCounters : String := "cpu3 1 0 18446744073709551615 7 9 2\n"

/-- The same core later. Only the time spent waiting, which is not kept, has run back. -/
def laterCounters : String := "cpu3 1 5 18446744073709551615 8 0 2\n"

/-- The files of a host of which only these counters can be read. -/
def filesOf (counters : String) : Files :=
  (Fixture.empty.addText (.ofString "/proc/stat") counters).files

/-- A system that counts at this rate. -/
def systemAt (clockTicks : UInt64) (faults : List Fault) : Os :=
  Simulated.answers { Simulated.standard with clockTicks, faults }

theorem counted_fullCounters {os : Os} {rate : UInt64} (h : os.clockTicks = .ok rate) :
    Counted Platform.defaultRoots (filesOf fullCounters) os rate
      [⟨3, 1, 0, 18446744073709551615, 7, 2⟩] :=
  ⟨⟨fullCounters, by rfl, Except.eq_ok_of_toOption (by decide +kernel)⟩, h⟩

theorem counted_laterCounters {os : Os} {rate : UInt64} (h : os.clockTicks = .ok rate) :
    Counted Platform.defaultRoots (filesOf laterCounters) os rate
      [⟨3, 1, 5, 18446744073709551615, 8, 2⟩] :=
  ⟨⟨laterCounters, by rfl, Except.eq_ok_of_toOption (by decide +kernel)⟩, h⟩

theorem times_never_run_back_full :
    (∃ records records',
      query Platform.defaultRoots (filesOf fullCounters) (systemAt 300 []) = .ok records ∧
      query Platform.defaultRoots (filesOf laterCounters) (systemAt 300 []) = .ok records' ∧
      List.Forall₂ (fun r r' => r.times.UpTo r'.times) records records') ∧
    (∃ records,
      query Platform.defaultRoots (filesOf laterCounters) (systemAt 300 []) = .ok records ∧
      List.Forall₂ (fun t r => r.times.Converted 300 t)
        [⟨3, 1, 5, 18446744073709551615, 8, 2⟩] records) ∧
    ∃ records,
      query Platform.defaultRoots (filesOf fullCounters) (systemAt 300 [.zeroClockTicks]) =
        .ok records ∧
      List.Forall₂ (fun t r => r.times.Converted 1 t)
        [⟨3, 1, 0, 18446744073709551615, 7, 2⟩] records := by
  obtain ⟨hreads, hconverted, hzero⟩ := times_never_run_back Platform.defaultRoots 300
  have hlater : Counted Platform.defaultRoots (filesOf laterCounters) (systemAt 300 []) 300
      [⟨3, 1, 5, 18446744073709551615, 8, 2⟩] := counted_laterCounters rfl
  refine ⟨?_, hconverted (by decide) _ _ _ hlater, hzero _ _ _ (counted_fullCounters rfl)⟩
  refine hreads _ _ _ _ _ _ (counted_fullCounters rfl) hlater (.cons ⟨rfl, ?_⟩ .nil)
  decide

end Cpu

end HostInfo
