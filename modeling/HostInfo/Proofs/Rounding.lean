import HostInfo.Proofs.Binary64

/-!
# Rounding to the nearest number

Rounding keeps the order and is off by at most half of the spacing around the exact value, on the
grid of finite numbers as for whole numbers. A quotient that is a point of the grid is not changed,
so a number is divided by a power of two without any error.
-/

namespace HostInfo

/-! ## Whole numbers -/

theorem le_roundHalfEven_of_le {n d m : Nat} (hd : 0 < d) (h : m * d ≤ n) :
    m ≤ roundHalfEven n d :=
  Nat.le_trans ((Nat.le_div_iff_mul_le hd).mpr h) (le_roundHalfEven n d)

theorem roundHalfEven_mul {d : Nat} (hd : 0 < d) (m : Nat) : roundHalfEven (m * d) d = m :=
  Nat.le_antisymm (roundHalfEven_le_of_le hd (Nat.le_refl _))
    (le_roundHalfEven_of_le hd (Nat.le_refl _))

theorem roundHalfEven_mul_mul_right {c : Nat} (hc : 0 < c) (n d : Nat) :
    roundHalfEven (n * c) (d * c) = roundHalfEven n d := by
  have hmod : 2 * (n * c % (d * c)) = 2 * (n % d) * c := by
    rw [Nat.mul_mod_mul_right, Nat.mul_assoc]
  have hlt : 2 * (n % d) * c < d * c ↔ 2 * (n % d) < d := Nat.mul_lt_mul_right hc
  have heq : 2 * (n % d) * c = d * c ↔ 2 * (n % d) = d := Nat.mul_left_inj (Nat.ne_of_gt hc)
  simp only [roundHalfEven, hmod, hlt, heq, Nat.mul_div_mul_right n d hc]

theorem two_mul_roundHalfEven_le (n d : Nat) : 2 * (roundHalfEven n d * d) ≤ 2 * n + d := by
  have hn : n / d * d + n % d = n := by
    rw [Nat.mul_comm]
    exact Nat.div_add_mod n d
  unfold roundHalfEven
  split
  · omega
  · rw [Nat.add_mul]
    omega

theorem le_two_mul_roundHalfEven {d : Nat} (hd : 0 < d) (n : Nat) :
    2 * n ≤ 2 * (roundHalfEven n d * d) + d := by
  have hn : n / d * d + n % d = n := by
    rw [Nat.mul_comm]
    exact Nat.div_add_mod n d
  have hmod : n % d < d := Nat.mod_lt n hd
  unfold roundHalfEven
  split
  · omega
  · rw [Nat.add_mul]
    omega

theorem roundHalfEven_mono {m n : Nat} (h : m ≤ n) (d : Nat) :
    roundHalfEven m d ≤ roundHalfEven n d := by
  rcases Nat.lt_or_eq_of_le (Nat.div_le_div_right (c := d) h) with hlt | heq
  · calc roundHalfEven m d ≤ m / d + 1 := roundHalfEven_le m d
      _ ≤ n / d := hlt
      _ ≤ roundHalfEven n d := le_roundHalfEven n d
  · -- between the same two whole numbers: only the remainder decides
    have hmod : m % d ≤ n % d := by
      have hm := Nat.div_add_mod m d
      have hn := Nat.div_add_mod n d
      rw [heq] at hm
      omega
    unfold roundHalfEven
    rw [heq]
    split <;> split <;> omega

namespace Binary64

/-! ## The grid from below -/

theorem grain_dvd_two_pow_log2 (n : Nat) : grain n ∣ 2 ^ n.log2 :=
  Nat.pow_dvd_pow 2 (Nat.sub_le n.log2 52)

theorem grain_two_pow_dvd (k : Nat) : grain (2 ^ k) ∣ 2 ^ k := by
  have h := grain_dvd_mul_two_pow (m := 1) (by decide) k
  rwa [Nat.one_mul] at h

theorem le_nearest_of_grain_dvd {n d g : Nat} (hd : 0 < d) (hg : grain (n / d) ∣ g)
    (h : g * d ≤ n) : g ≤ nearest n d := by
  obtain ⟨m, rfl⟩ := hg
  rw [nearest, Nat.mul_comm (grain (n / d)) m]
  apply Nat.mul_le_mul_right
  refine le_roundHalfEven_of_le (Nat.mul_pos hd (grain_pos _)) (Nat.le_trans (Nat.le_of_eq ?_) h)
  ac_rfl

/-- Rounding does not pass a point of the grid from above either. -/
theorem le_nearest {n d g : Nat} (hd : 0 < d) (hg : grain g ∣ g) (h : g * d ≤ n) :
    g ≤ nearest n d := by
  have hquotient : g ≤ n / d := (Nat.le_div_iff_mul_le hd).mpr h
  by_cases hlog : (n / d).log2 ≤ g.log2
  · exact le_nearest_of_grain_dvd hd
      (Nat.dvd_trans (Nat.pow_dvd_pow 2 (Nat.sub_le_sub_right hlog 52)) hg) h
  · -- a power of two stands between the two
    have hne : n / d ≠ 0 := by
      intro hzero
      rw [hzero] at hlog
      exact hlog (Nat.zero_le _)
    have hpower : 2 ^ (n / d).log2 * d ≤ n :=
      (Nat.le_div_iff_mul_le hd).mp (Nat.log2_self_le hne)
    calc g ≤ 2 ^ (g.log2 + 1) := Nat.le_of_lt Nat.lt_log2_self
      _ ≤ 2 ^ (n / d).log2 := Nat.pow_le_pow_right Nat.two_pos (by omega)
      _ ≤ nearest n d := le_nearest_of_grain_dvd hd (grain_dvd_two_pow_log2 _) hpower

theorem nearest_mul {g d : Nat} (hd : 0 < d) (hg : grain g ∣ g) : nearest (g * d) d = g :=
  Nat.le_antisymm (nearest_le hd hg (Nat.le_refl _)) (le_nearest hd hg (Nat.le_refl _))

theorem nearest_mul_mul_right {c : Nat} (hc : 0 < c) (n d : Nat) :
    nearest (n * c) (d * c) = nearest n d := by
  rw [nearest, nearest, Nat.mul_div_mul_right n d hc, Nat.mul_right_comm,
    roundHalfEven_mul_mul_right hc]

/-! ## Order and error -/

theorem nearest_mono {m n d : Nat} (hd : 0 < d) (h : m ≤ n) : nearest m d ≤ nearest n d := by
  have hquotient : m / d ≤ n / d := Nat.div_le_div_right h
  by_cases hlog : (n / d).log2 ≤ (m / d).log2
  · -- the same spacing around both
    have hgrain : grain (m / d) = grain (n / d) := by
      have hle : (m / d).log2 ≤ (n / d).log2 := by
        rw [Nat.log2_eq_log_two, Nat.log2_eq_log_two]
        exact Nat.log_mono_right hquotient
      rw [grain, grain, Nat.le_antisymm hle hlog]
    rw [nearest, nearest, hgrain]
    exact Nat.mul_le_mul_right _ (roundHalfEven_mono h _)
  · -- a power of two stands between the two
    have hne : n / d ≠ 0 := by
      intro hzero
      rw [hzero] at hlog
      exact hlog (Nat.zero_le _)
    have hlt : m / d < 2 ^ (n / d).log2 :=
      Nat.lt_of_lt_of_le Nat.lt_log2_self (Nat.pow_le_pow_right Nat.two_pos (by omega))
    calc nearest m d ≤ 2 ^ (n / d).log2 :=
          nearest_le hd (grain_two_pow_dvd _) (Nat.le_of_lt ((Nat.div_lt_iff_lt_mul hd).mp hlt))
      _ ≤ nearest n d :=
          le_nearest hd (grain_two_pow_dvd _)
            ((Nat.le_div_iff_mul_le hd).mp (Nat.log2_self_le hne))

theorem two_mul_nearest_le (n d : Nat) :
    2 * (nearest n d * d) ≤ 2 * n + d * grain (n / d) := by
  have h := two_mul_roundHalfEven_le n (d * grain (n / d))
  rwa [nearest, Nat.mul_assoc, Nat.mul_comm (grain (n / d)) d]

theorem le_two_mul_nearest {d : Nat} (hd : 0 < d) (n : Nat) :
    2 * n ≤ 2 * (nearest n d * d) + d * grain (n / d) := by
  have h := le_two_mul_roundHalfEven (Nat.mul_pos hd (grain_pos (n / d))) n
  rwa [nearest, Nat.mul_assoc, Nat.mul_comm (grain (n / d)) d]

/-! ## Exact operations -/

theorem exists_ofQuanta_eq {s : Bool} {n d : Nat} (h : nearest n d < limit) :
    ∃ q : Quanta, ofQuanta s n d = .finite s q ∧ q.count = nearest n d := by
  rw [ofQuanta, dif_pos h]
  exact ⟨_, rfl, rfl⟩

theorem exists_div_eq {p q : Quanta} (hq : q.count ≠ 0)
    (h : nearest (p.count * one) q.count < limit) :
    ∃ r : Quanta, (finite false p / finite false q : Binary64) = .finite false r ∧
      r.count = nearest (p.count * one) q.count := by
  change ∃ r, div _ _ = _ ∧ _
  rw [div, if_neg hq]
  exact exists_ofQuanta_eq h

/-! ## Whole numbers as binary64 numbers -/

theorem two_pow_mul_one (k : Nat) : 2 ^ k * one = 2 ^ (k + 1074) := by
  rw [Nat.pow_add, one]

/-- Below a power of two the spacing is at most the 2 ^ 53rd part of it. -/
theorem grain_mul_two_pow_le {q i : Nat} (h : q < 2 ^ i * one) : grain q * 2 ^ 53 ≤ 2 ^ i * one := by
  rw [two_pow_mul_one] at h ⊢
  rw [grain, ← Nat.pow_add]
  refine Nat.pow_le_pow_right Nat.two_pos ?_
  rcases Nat.eq_zero_or_pos q with rfl | hpos
  · rw [Nat.log2_zero]
    omega
  · have hlog : q.log2 < i + 1074 := (Nat.log2_lt (Nat.ne_of_gt hpos)).mpr h
    omega

theorem le_log2_mul_one {n k : Nat} (h : 2 ^ k ≤ n) : k + 1074 ≤ (n * one).log2 := by
  have hpos : 0 < n * one := Nat.mul_pos (Nat.lt_of_lt_of_le (Nat.two_pow_pos k) h) one_quanta_pos
  rw [Nat.le_log2 (Nat.ne_of_gt hpos), ← two_pow_mul_one]
  exact Nat.mul_le_mul_right one h

/-- The quanta of the number that is nearest to a whole one. -/
def quantaOf (n : Nat) : Nat := nearest (n * one) 1

theorem quantaOf_mono {m n : Nat} (h : m ≤ n) : quantaOf m ≤ quantaOf n :=
  nearest_mono Nat.one_pos (Nat.mul_le_mul_right one h)

theorem quantaOf_of_le {n : Nat} (h : n ≤ 2 ^ 53) : quantaOf n = n * one := by
  have hgrid : grain (n * one) ∣ n * one := by
    rw [one]
    exact grain_dvd_mul_two_pow h 1074
  exact nearest_of_dvd hgrid

theorem quantaOf_two_pow (k : Nat) : quantaOf (2 ^ k) = 2 ^ k * one := by
  have hgrid : grain (2 ^ k * one) ∣ 2 ^ k * one := by
    rw [two_pow_mul_one]
    exact grain_two_pow_dvd (k + 1074)
  exact nearest_of_dvd hgrid

theorem quantaOf_lt_limit {n k : Nat} (hk : k ≤ 971) (h : n ≤ 2 ^ k) : quantaOf n < limit := by
  have hle := quantaOf_mono h
  rw [quantaOf_two_pow] at hle
  exact Nat.lt_of_le_of_lt hle (onGrid_two_pow_mul_one hk).2

theorem exists_ofNat_eq {n k : Nat} (hk : k ≤ 971) (h : n ≤ 2 ^ k) :
    ∃ q : Quanta, ofNat n = .finite false q ∧ q.count = quantaOf n := by
  unfold ofNat ofRatio
  exact exists_ofQuanta_eq (quantaOf_lt_limit hk h)

/-- A 64-bit number loses its last eleven binary digits at most, and half of their worth. -/
theorem quantaOf_error {n : Nat} (h : n < 2 ^ 64) :
    quantaOf n ≤ (n + 1024) * one ∧ n * one ≤ quantaOf n + 1024 * one := by
  have hgrain : grain (n * one / 1) * 2 ^ 53 ≤ 2 ^ 64 * one := by
    refine grain_mul_two_pow_le ?_
    rw [Nat.div_one]
    exact Nat.mul_lt_mul_of_pos_right h one_quanta_pos
  have hupper := two_mul_nearest_le (n * one) 1
  have hlower := le_two_mul_nearest Nat.one_pos (n * one)
  rw [quantaOf, Nat.add_mul]
  omega

theorem exists_quantaOf_eq (n : Nat) {k : Nat} (hk : k ≤ 1022) :
    ∃ m j, quantaOf n = m * 2 ^ j * 2 ^ k ∧ m ≤ 2 ^ 53 := by
  rcases Nat.eq_zero_or_pos n with rfl | hpos
  · exact ⟨0, 0, by rw [quantaOf_of_le (Nat.zero_le _)]; simp, Nat.zero_le _⟩
  · have hlog : 0 + 1074 ≤ (n * one).log2 := le_log2_mul_one hpos
    refine ⟨_, (n * one).log2 - 52 - k, ?_, roundHalfEven_grain_le (n * one) 1⟩
    rw [quantaOf, nearest, Nat.mul_assoc, ← Nat.pow_add, Nat.sub_add_cancel (by omega), Nat.div_one,
      grain]

/-- A quotient of whole numbers is that of the rounded first one, rounded once more. -/
theorem exists_ofNat_div {n d : Nat} (hn : n < 2 ^ 64) (hd : 0 < d) (hd' : d ≤ 2 ^ 53) :
    ∃ r : Quanta, ofNat n / ofNat d = .finite false r ∧ r.count = nearest (quantaOf n) d := by
  obtain ⟨p, hp, hpcount⟩ := exists_ofNat_eq (k := 64) (by decide) (Nat.le_of_lt hn)
  obtain ⟨q, hq, hqcount⟩ := exists_ofNat_eq (k := 53) (by decide) hd'
  rw [quantaOf_of_le hd'] at hqcount
  have hqpos : 0 < q.count := hqcount ▸ Nat.mul_pos hd one_quanta_pos
  have hnearest : nearest (p.count * one) q.count = nearest (quantaOf n) d := by
    rw [hpcount, hqcount, nearest_mul_mul_right one_quanta_pos]
  have hlimit : nearest (quantaOf n) d < limit := by
    refine Nat.lt_of_le_of_lt ?_ (quantaOf_lt_limit (k := 64) (by decide) (Nat.le_of_lt hn))
    exact nearest_le hd (grain_dvd_nearest _ _) (Nat.le_mul_of_pos_right _ hd)
  obtain ⟨r, hr, hrcount⟩ := exists_div_eq (Nat.ne_of_gt hqpos)
    (Nat.lt_of_le_of_lt (Nat.le_of_eq hnearest) hlimit)
  exact ⟨r, by rw [hp, hq, hr], hrcount.trans hnearest⟩

/-- The quotient by a power of two is the same number with another exponent. -/
theorem exists_ofNat_div_two_pow {n k : Nat} (hn : n < 2 ^ 64) (hk : k ≤ 53) :
    ∃ r : Quanta, ofNat n / ofNat (2 ^ k) = .finite false r ∧ r.count * 2 ^ k = quantaOf n := by
  obtain ⟨m, j, hquanta, hm⟩ := exists_quantaOf_eq n (k := k) (Nat.le_trans hk (by decide))
  obtain ⟨r, hr, hcount⟩ := exists_ofNat_div hn (Nat.two_pow_pos k)
    (Nat.pow_le_pow_right Nat.two_pos hk)
  refine ⟨r, hr, ?_⟩
  rw [hcount, hquanta, nearest_mul (Nat.two_pow_pos k) (grain_dvd_mul_two_pow hm j)]

/-! ## Whole parts -/

theorem toNat_toUInt64 {q : Quanta} (h : q.count / one < 2 ^ 64) :
    (finite false q).toUInt64.toNat = q.count / one := by
  have hwhole : (finite false q).whole 0 (2 ^ 64 - 1) = (q.count / one : Nat) := by
    simp only [whole, Bool.false_eq_true, if_false]
    generalize q.count / one = n at h ⊢
    rw [if_neg (by omega), if_neg (by omega)]
  rw [toUInt64, hwhole, Int.toNat_natCast, UInt64.toNat_ofNat_of_lt' h]

/-- Where the spacing is below twice the `d`th part of one, a quotient by `d` is not rounded up to
the next whole number. -/
theorem nearest_div_one {n d : Nat} (hn : n ≤ 2 ^ 53) (hd : 0 < d)
    (h : d * grain (n * one / d) < 2 * one) : nearest (n * one) d / one = n / d := by
  refine Nat.div_eq_of_lt_le ?_ ?_
  · have hgrid : grain (n / d * one) ∣ n / d * one := by
      rw [one]
      exact grain_dvd_mul_two_pow (Nat.le_trans (Nat.div_le_self n d) hn) 1074
    refine le_nearest hd hgrid ?_
    rw [Nat.mul_right_comm]
    exact Nat.mul_le_mul_right one (Nat.div_mul_le_self n d)
  · have hnext : n + 1 ≤ (n / d + 1) * d := by
      rw [Nat.mul_comm]
      exact Nat.lt_mul_div_succ n hd
    have hupper : 2 * (nearest (n * one) d * d) < 2 * ((n / d + 1) * one * d) := by
      calc 2 * (nearest (n * one) d * d)
          ≤ 2 * (n * one) + d * grain (n * one / d) := two_mul_nearest_le (n * one) d
        _ < 2 * ((n + 1) * one) := by rw [Nat.add_mul]; omega
        _ ≤ 2 * ((n / d + 1) * d * one) :=
          Nat.mul_le_mul_left 2 (Nat.mul_le_mul_right one hnext)
        _ = 2 * ((n / d + 1) * one * d) := by rw [Nat.mul_right_comm]
    exact Nat.lt_of_mul_lt_mul_right (Nat.lt_of_mul_lt_mul_left hupper)

end Binary64

end HostInfo
