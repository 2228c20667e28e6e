import HostInfo.Power

/-!
# Binary64 numbers

A finite number is a whole multiple of the least positive one, 2 ^ -1074, called a quantum here.
The finite numbers are the multiples that lie on a grid: around `n` quanta the grid has the
spacing `grain n`, so that 53 binary digits are kept. `nearest` rounds an exact quotient to the
grid, a half going to the even neighbour, and every operation is an exact result rounded once.
-/

namespace HostInfo

/-- The quotient `n / d` rounded to a whole number, a half going to the even one. -/
def roundHalfEven (n d : Nat) : Nat :=
  if 2 * (n % d) < d ∨ (2 * (n % d) = d ∧ n / d % 2 = 0) then n / d else n / d + 1

namespace Binary64

/-- The spacing of the grid around `n` quanta. -/
def grain (n : Nat) : Nat := 2 ^ (n.log2 - 52)

/-- One quantum is the 2 ^ 1074th part of one. -/
def one : Nat := 2 ^ 1074

/-- The greatest number of binary places between the last digit of a number and a quantum. -/
def topPlace : Nat := 2045

/-- The count of quanta in 2 ^ 1024; numbers as large as that are not finite. -/
def limit : Nat := 2 ^ 53 * 2 ^ topPlace

/-- The point of the grid that is nearest to `n / d` quanta. -/
def nearest (n d : Nat) : Nat := roundHalfEven n (d * grain (n / d)) * grain (n / d)

/-- What a finite number's count of quanta has to satisfy. -/
def OnGrid (n : Nat) : Prop := grain n ∣ n ∧ n < limit

instance (n : Nat) : Decidable (OnGrid n) := inferInstanceAs (Decidable (_ ∧ _))

end Binary64

/-- The magnitude of a finite number, in quanta. -/
structure Quanta where
  count : Nat
  onGrid : Binary64.OnGrid count
deriving DecidableEq

inductive Binary64 where
  | nan
  | infinite (negative : Bool)
  | finite (negative : Bool) (magnitude : Quanta)
deriving DecidableEq

/-! ## The grid -/

theorem roundHalfEven_le (n d : Nat) : roundHalfEven n d ≤ n / d + 1 := by
  unfold roundHalfEven; split <;> omega

theorem le_roundHalfEven (n d : Nat) : n / d ≤ roundHalfEven n d := by
  unfold roundHalfEven; split <;> omega

namespace Binary64

theorem lt_two_pow_grain (n : Nat) : n < 2 ^ 53 * grain n := by
  have h := Nat.lt_log2_self (n := n)
  have hp : 2 ^ (n.log2 + 1) ≤ 2 ^ (53 + (n.log2 - 52)) :=
    Nat.pow_le_pow_right (by decide) (by omega)
  rw [Nat.pow_add 2 53] at hp
  exact Nat.lt_of_lt_of_le h hp

theorem grain_dvd_mul_two_pow {m : Nat} (hm : m ≤ 2 ^ 53) (k : Nat) :
    grain (m * 2 ^ k) ∣ m * 2 ^ k := by
  by_cases h0 : m = 0
  · subst h0; simp [grain, Nat.log2_zero]
  have hne : m * 2 ^ k ≠ 0 := Nat.mul_ne_zero h0 (by simp)
  rcases Nat.lt_or_eq_of_le hm with hlt | heq
  · have hlog : (m * 2 ^ k).log2 < 53 + k := by
      rw [Nat.log2_lt hne, Nat.pow_add]
      exact Nat.mul_lt_mul_of_pos_right hlt (Nat.two_pow_pos k)
    exact Nat.dvd_trans (Nat.pow_dvd_pow 2 (by omega)) (Nat.dvd_mul_left (2 ^ k) m)
  · subst heq
    rw [← Nat.pow_add, grain, Nat.log2_two_pow]
    exact Nat.pow_dvd_pow 2 (by omega)

/-- Around the quotient a number of the grid has at most 53 binary digits. -/
theorem roundHalfEven_grain_le (n d : Nat) : roundHalfEven n (d * grain (n / d)) ≤ 2 ^ 53 := by
  refine Nat.le_trans (roundHalfEven_le _ _) ?_
  rw [← Nat.div_div_eq_div_mul]
  have hg : 0 < grain (n / d) := Nat.two_pow_pos _
  exact (Nat.div_lt_iff_lt_mul hg).2 (lt_two_pow_grain (n / d))

theorem grain_dvd_nearest (n d : Nat) : grain (nearest n d) ∣ nearest n d :=
  grain_dvd_mul_two_pow (roundHalfEven_grain_le n d) _

theorem onGrid_mul_two_pow {m k : Nat} (hm : m < 2 ^ 53) (hk : k ≤ topPlace) :
    OnGrid (m * 2 ^ k) := by
  refine ⟨grain_dvd_mul_two_pow (Nat.le_of_lt hm) k, ?_⟩
  have hlt : m * 2 ^ k < 2 ^ 53 * 2 ^ k := Nat.mul_lt_mul_of_pos_right hm (Nat.two_pow_pos k)
  exact Nat.lt_of_lt_of_le hlt
    (Nat.mul_le_mul_left _ (Nat.pow_le_pow_right Nat.two_pos hk))

theorem onGrid_zero : OnGrid 0 := by
  have h := onGrid_mul_two_pow (m := 0) (k := 0) (by decide) (by decide)
  simpa using h

/-! ## Rounding -/

/-- The number nearest to `n / d` quanta, infinite when that is out of range. -/
def ofQuanta (negative : Bool) (n d : Nat) : Binary64 :=
  if h : nearest n d < limit then .finite negative ⟨nearest n d, grain_dvd_nearest n d, h⟩
  else .infinite negative

/-- The number nearest to `n / d`. -/
def ofRatio (negative : Bool) (n d : Nat) : Binary64 := ofQuanta negative (n * one) d

def ofNat (n : Nat) : Binary64 := ofRatio false n 1

def zero (negative : Bool) : Binary64 := .finite negative ⟨0, onGrid_zero⟩

instance (n : Nat) : OfNat Binary64 n := ⟨ofNat n⟩

instance : Inhabited Binary64 := ⟨zero false⟩

/-! ## Arithmetic -/

def neg : Binary64 → Binary64
  | .nan => .nan
  | .infinite s => .infinite !s
  | .finite s q => .finite (!s) q

instance : Neg Binary64 := ⟨neg⟩

/-- The signed count of quanta. -/
def signed (negative : Bool) (q : Quanta) : Int :=
  if negative then -(q.count : Int) else q.count

/-- A sum that is exactly zero is positive unless both terms are negative. -/
def add : Binary64 → Binary64 → Binary64
  | .nan, _ => .nan
  | _, .nan => .nan
  | .infinite s, .infinite t => if s = t then .infinite s else .nan
  | .infinite s, .finite _ _ => .infinite s
  | .finite _ _, .infinite t => .infinite t
  | .finite s p, .finite t q =>
    let sum := signed s p + signed t q
    if sum = 0 then zero (s && t) else ofQuanta (decide (sum < 0)) sum.natAbs 1

instance : Add Binary64 := ⟨add⟩

instance : Sub Binary64 := ⟨fun a b => add a (neg b)⟩

def mul : Binary64 → Binary64 → Binary64
  | .nan, _ => .nan
  | _, .nan => .nan
  | .infinite s, .infinite t => .infinite (s ^^ t)
  | .infinite s, .finite t q => if q.count = 0 then .nan else .infinite (s ^^ t)
  | .finite s p, .infinite t => if p.count = 0 then .nan else .infinite (s ^^ t)
  | .finite s p, .finite t q => ofQuanta (s ^^ t) (p.count * q.count) one

instance : Mul Binary64 := ⟨mul⟩

def div : Binary64 → Binary64 → Binary64
  | .nan, _ => .nan
  | _, .nan => .nan
  | .infinite _, .infinite _ => .nan
  | .infinite s, .finite t _ => .infinite (s ^^ t)
  | .finite s _, .infinite t => zero (s ^^ t)
  | .finite s p, .finite t q =>
    if q.count = 0 then if p.count = 0 then .nan else .infinite (s ^^ t)
    else ofQuanta (s ^^ t) (p.count * one) q.count

instance : Div Binary64 := ⟨div⟩

/-- The order of the numbers; a NaN is not less than anything, and the two zeros are equal. -/
def lt : Binary64 → Binary64 → Bool
  | .nan, _ => false
  | _, .nan => false
  | .infinite s, .infinite t => s && !t
  | .infinite s, .finite _ _ => s
  | .finite _ _, .infinite t => !t
  | .finite s p, .finite t q => decide (signed s p < signed t q)

instance : LT Binary64 := ⟨fun a b => lt a b = true⟩

instance (a b : Binary64) : Decidable (a < b) := inferInstanceAs (Decidable (_ = true))

/-- Less or equal; a NaN is not in this relation either. -/
def le : Binary64 → Binary64 → Bool
  | .nan, _ => false
  | _, .nan => false
  | a, b => !lt b a

instance : LE Binary64 := ⟨fun a b => le a b = true⟩

instance (a b : Binary64) : Decidable (a ≤ b) := inferInstanceAs (Decidable (_ = true))

/-- The greater of two numbers; a NaN gives way to the other one. -/
def max : Binary64 → Binary64 → Binary64
  | .nan, b => b
  | a, .nan => a
  | a, b => if a < b then b else a

instance : Max Binary64 := ⟨max⟩

/-! ## Whole numbers -/

/-- The whole part, clamped to the range from `lo` to `hi`; a NaN counts as zero. -/
def whole (lo hi : Int) : Binary64 → Int
  | .nan => 0
  | .infinite s => if s then lo else hi
  | .finite s q =>
    let n : Int := if s then -((q.count / one : Nat) : Int) else (q.count / one : Nat)
    if n < lo then lo else if hi < n then hi else n

def toUInt32 (x : Binary64) : UInt32 := UInt32.ofNat (x.whole 0 (2 ^ 32 - 1)).toNat

def toUInt64 (x : Binary64) : UInt64 := UInt64.ofNat (x.whole 0 (2 ^ 64 - 1)).toNat

/-- The whole part within the range of a signed 64-bit integer. -/
def toInt (x : Binary64) : Int := x.whole (-2 ^ 63) (2 ^ 63 - 1)

end Binary64

end HostInfo
