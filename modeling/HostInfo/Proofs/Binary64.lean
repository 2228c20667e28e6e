import Mathlib.Data.Nat.Log
import HostInfo.Binary64.Basic

/-!
# Bounds of rounded numbers

Rounding does not pass a point of the grid: what is at most a finite number is at most that number
after rounding, too. From this come the bounds of sums, quotients and differences of numbers that
are finite and not negative.
-/

namespace HostInfo

theorem roundHalfEven_le_of_le {n d m : Nat} (hd : 0 < d) (h : n ≤ m * d) :
    roundHalfEven n d ≤ m := by
  rcases Nat.lt_or_eq_of_le h with hlt | rfl
  · have hdiv : n / d < m := (Nat.div_lt_iff_lt_mul hd).mpr hlt
    exact Nat.le_trans (roundHalfEven_le n d) hdiv
  · rw [roundHalfEven, Nat.mul_mod_left, if_pos (.inl hd), Nat.mul_div_cancel m hd]

namespace Binary64

/-! ## The grid as a bound -/

theorem grain_pos (n : Nat) : 0 < grain n := Nat.two_pow_pos _

theorem one_quanta_pos : 0 < one := by
  rw [one]
  exact Nat.two_pow_pos 1074

theorem grain_dvd_grain {m n : Nat} (h : m ≤ n) : grain m ∣ grain n := by
  have hlog : m.log2 ≤ n.log2 := by
    rw [Nat.log2_eq_log_two, Nat.log2_eq_log_two]
    exact Nat.log_mono_right h
  exact Nat.pow_dvd_pow 2 (Nat.sub_le_sub_right hlog 52)

/-- Rounding does not pass a point of the grid. -/
theorem nearest_le {n d g : Nat} (hd : 0 < d) (hg : grain g ∣ g) (h : n ≤ g * d) :
    nearest n d ≤ g := by
  have hquotient : n / d ≤ g := Nat.div_le_of_le_mul (Nat.mul_comm g d ▸ h)
  -- the grid around the quotient is the finer one, so `g` is one of its points
  obtain ⟨m, hm⟩ := Nat.dvd_trans (grain_dvd_grain hquotient) hg
  have hround : roundHalfEven n (d * grain (n / d)) ≤ m := by
    refine roundHalfEven_le_of_le (Nat.mul_pos hd (grain_pos _)) (Nat.le_trans h ?_)
    rw [hm, Nat.mul_comm d, ← Nat.mul_assoc, Nat.mul_comm m]
  calc nearest n d ≤ m * grain (n / d) := Nat.mul_le_mul_right _ hround
    _ = g := by rw [Nat.mul_comm, ← hm]

theorem nearest_of_dvd {n : Nat} (h : grain n ∣ n) : nearest n 1 = n := by
  rw [nearest, Nat.div_one, Nat.one_mul, roundHalfEven, Nat.mod_eq_zero_of_dvd h,
    if_pos (.inl (grain_pos n)), Nat.div_mul_cancel h]

theorem onGrid_two_pow_mul_one {k : Nat} (hk : k ≤ 971) : OnGrid (2 ^ k * one) := by
  have h := onGrid_mul_two_pow (m := 1) (k := k + 1074) (by decide) (by unfold topPlace; omega)
  rwa [Nat.one_mul, Nat.pow_add] at h

/-! ## Numbers without a sign -/

@[simp]
theorem signed_false (q : Quanta) : signed false q = q.count := rfl

@[simp]
theorem signed_true (q : Quanta) : signed true q = -(q.count : Int) := rfl

/-- Finite and not negative. -/
def Unsigned (x : Binary64) : Prop := ∃ q : Quanta, x = .finite false q

theorem ofQuanta_of_le {s : Bool} {n d g : Nat} (hd : 0 < d) (hg : OnGrid g)
    (h : n ≤ g * d) :
    ∃ q : Quanta, ofQuanta s n d = .finite s q ∧ q.count ≤ g := by
  have hle : nearest n d ≤ g := nearest_le hd hg.1 h
  rw [ofQuanta, dif_pos (Nat.lt_of_le_of_lt hle hg.2)]
  exact ⟨_, rfl, hle⟩

theorem ofNat_of_le {n k : Nat} (hk : k ≤ 971) (h : n ≤ 2 ^ k) :
    ∃ q : Quanta, ofNat n = .finite false q ∧ q.count ≤ 2 ^ k * one := by
  unfold ofNat ofRatio
  refine ofQuanta_of_le Nat.one_pos (onGrid_two_pow_mul_one hk) ?_
  rw [Nat.mul_one]
  exact Nat.mul_le_mul_right one h

/-- Whole numbers of at most 53 binary digits are exact. -/
theorem ofNat_of_lt {n : Nat} (h : n < 2 ^ 53) :
    ∃ q : Quanta, ofNat n = .finite false q ∧ q.count = n * one := by
  have hg : OnGrid (n * one) := by
    rw [one]
    exact onGrid_mul_two_pow (m := n) (k := 1074) h (by decide)
  have hnearest : nearest (n * one) 1 = n * one := nearest_of_dvd hg.1
  have hlt : nearest (n * one) 1 < limit := hnearest.symm ▸ hg.2
  refine ⟨⟨nearest (n * one) 1, grain_dvd_nearest (n * one) 1, hlt⟩, ?_, hnearest⟩
  unfold ofNat ofRatio ofQuanta
  rw [dif_pos hlt]

theorem zero_eq : (0 : Binary64) = zero false := by
  obtain ⟨⟨count, hcount⟩, h, hzero⟩ := ofNat_of_lt (n := 0) (by decide)
  rw [Nat.zero_mul] at hzero
  subst hzero
  exact h

theorem add_of_le {p q : Quanta} {g : Nat} (hg : OnGrid g) (h : p.count + q.count ≤ g) :
    ∃ r : Quanta, (finite false p + finite false q : Binary64) = .finite false r ∧
      r.count ≤ g := by
  have hsum : signed false p + signed false q = ((p.count + q.count : Nat) : Int) := by
    simp
  change ∃ r, add _ _ = _ ∧ _
  rw [add, hsum]
  by_cases hzero : p.count + q.count = 0
  · rw [if_pos (by omega)]
    exact ⟨_, rfl, Nat.zero_le _⟩
  · rw [if_neg (by omega), Int.natAbs_natCast, decide_eq_false (by omega)]
    exact ofQuanta_of_le Nat.one_pos hg (by omega)

theorem div_of_le {p q : Quanta} {g : Nat} (hg : OnGrid g) (hq : q.count ≠ 0)
    (h : p.count * one ≤ g * q.count) :
    ∃ r : Quanta, (finite false p / finite false q : Binary64) = .finite false r ∧
      r.count ≤ g := by
  change ∃ r, div _ _ = _ ∧ _
  rw [div, if_neg hq]
  exact ofQuanta_of_le (Nat.pos_of_ne_zero hq) hg h

/-! ## Order -/

theorem finite_le_finite_iff {s t : Bool} {p q : Quanta} :
    finite s p ≤ finite t q ↔ signed s p ≤ signed t q := by
  change (!decide (signed t q < signed s p)) = true ↔ _
  rw [Bool.not_eq_true', decide_eq_false_iff_not, Int.not_lt]

theorem finite_lt_finite_iff {s t : Bool} {p q : Quanta} :
    finite s p < finite t q ↔ signed s p < signed t q := by
  change decide _ = true ↔ _
  exact decide_eq_true_iff

theorem zero_le_finite_iff {s : Bool} {q : Quanta} :
    0 ≤ finite s q ↔ s = false ∨ q.count = 0 := by
  rw [zero_eq, zero, finite_le_finite_iff]
  cases s <;> simp

theorem unsigned_zero : Unsigned 0 := ⟨_, zero_eq⟩

theorem Unsigned.zero_le {x : Binary64} (h : Unsigned x) : 0 ≤ x := by
  obtain ⟨q, rfl⟩ := h
  exact zero_le_finite_iff.mpr (.inl rfl)

theorem Unsigned.not_lt_zero {x : Binary64} (h : Unsigned x) : ¬ x < 0 := by
  obtain ⟨q, rfl⟩ := h
  rw [zero_eq, zero, finite_lt_finite_iff]
  simp

/-- A difference of two numbers without a sign is finite. It is one without a sign and at most the
first of the numbers, or else it has a sign. -/
theorem sub_cases (p q : Quanta) :
    (∃ r : Quanta, (finite false p - finite false q : Binary64) = .finite false r ∧
      r.count ≤ p.count) ∨
    ∃ r : Quanta, (finite false p - finite false q : Binary64) = .finite true r := by
  change (∃ r, add _ (neg _) = _ ∧ _) ∨ ∃ r, add _ (neg _) = _
  simp only [neg, add, Bool.not_false]
  by_cases h : q.count ≤ p.count
  · refine .inl ?_
    have hdiff : signed false p + signed true q = ((p.count - q.count : Nat) : Int) := by
      rw [signed_false, signed_true]
      omega
    rw [hdiff]
    by_cases hzero : p.count - q.count = 0
    · rw [if_pos (by omega)]
      exact ⟨_, rfl, Nat.zero_le _⟩
    · rw [if_neg (by omega), Int.natAbs_natCast, decide_eq_false (by omega)]
      exact ofQuanta_of_le Nat.one_pos p.onGrid (by omega)
  · refine .inr ?_
    have hdiff : signed false p + signed true q = -((q.count - p.count : Nat) : Int) := by
      rw [signed_false, signed_true]
      omega
    rw [hdiff, if_neg (by omega), Int.natAbs_neg, Int.natAbs_natCast, decide_eq_true (by omega)]
    obtain ⟨r, hr, -⟩ := ofQuanta_of_le (s := true) (n := q.count - p.count)
      Nat.one_pos q.onGrid (by omega)
    exact ⟨r, hr⟩

/-- What is left of a difference when negative ones count as zero. -/
theorem max_sub_bounds {x y : Binary64} (hx : Unsigned x) (hy : Unsigned y) :
    0 ≤ Max.max (x - y) 0 ∧ Max.max (x - y) 0 ≤ x := by
  obtain ⟨p, rfl⟩ := hx
  obtain ⟨q, rfl⟩ := hy
  have hmax : ∀ s r, Max.max (finite s r) 0 = if finite s r < 0 then 0 else finite s r := by
    intro s r
    rw [zero_eq]
    rfl
  have hp : (0 : Binary64) ≤ finite false p := Unsigned.zero_le ⟨p, rfl⟩
  rcases sub_cases p q with ⟨r, hr, hle⟩ | ⟨r, hr⟩
  · rw [hr, hmax, if_neg (Unsigned.not_lt_zero ⟨r, rfl⟩)]
    refine ⟨Unsigned.zero_le ⟨r, rfl⟩, ?_⟩
    rw [finite_le_finite_iff]
    simpa using hle
  · rw [hr, hmax]
    split
    · exact ⟨Unsigned.zero_le unsigned_zero, hp⟩
    · next hnot =>
        -- a negative zero
        have hzero : r.count = 0 := by
          rw [zero_eq, zero, finite_lt_finite_iff] at hnot
          rw [signed_true, signed_false] at hnot
          omega
        refine ⟨zero_le_finite_iff.mpr (.inr hzero), ?_⟩
        rw [finite_le_finite_iff]
        simp [hzero]

end Binary64

end HostInfo
