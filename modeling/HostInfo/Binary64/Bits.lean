import HostInfo.Binary64.Basic

/-!
# The 64 bits of a binary64 number

One bit of sign, eleven of exponent and 52 of significand, from the highest down.
-/

namespace HostInfo.Binary64

theorem mantissa_lt (n : Nat) : n % 2 ^ 52 + 2 ^ 52 < 2 ^ 53 := by
  have := Nat.mod_lt n (y := 2 ^ 52) (by decide)
  omega

theorem exponent_le (n : Nat) (h : n / 2 ^ 52 % 2 ^ 11 ≠ 2 ^ 11 - 1) :
    n / 2 ^ 52 % 2 ^ 11 - 1 ≤ topPlace := by
  unfold topPlace
  have := Nat.mod_lt (n / 2 ^ 52) (y := 2 ^ 11) (by decide)
  omega

def ofBits (bits : UInt64) : Binary64 :=
  let n := bits.toNat
  let negative := decide (2 ^ 63 ≤ n)
  if h : n / 2 ^ 52 % 2 ^ 11 = 2 ^ 11 - 1 then
    if n % 2 ^ 52 = 0 then .infinite negative else .nan
  else if n / 2 ^ 52 % 2 ^ 11 = 0 then
    .finite negative ⟨n % 2 ^ 52 * 2 ^ 0,
      onGrid_mul_two_pow (Nat.lt_of_le_of_lt (Nat.le_add_right _ _) (mantissa_lt n)) (by decide)⟩
  else
    .finite negative ⟨(n % 2 ^ 52 + 2 ^ 52) * 2 ^ (n / 2 ^ 52 % 2 ^ 11 - 1),
      onGrid_mul_two_pow (mantissa_lt n) (exponent_le n h)⟩

/-- The exponent and significand bits of a magnitude: below 2 ^ 52 quanta the count itself. -/
def magnitudeBits (q : Nat) : Nat :=
  if q < 2 ^ 52 then q else (q.log2 - 52) * 2 ^ 52 + q / grain q

def toBits (x : Binary64) : UInt64 :=
  UInt64.ofNat <| match x with
    | .nan => 0x7ff8000000000000
    | .infinite s => (if s then 2 ^ 63 else 0) + 0x7ff0000000000000
    | .finite s q => (if s then 2 ^ 63 else 0) + magnitudeBits q.count

end HostInfo.Binary64
