import HostInfo.Power

/-!
# Decimal numerals

An unsigned numeral is an optional plus sign followed by at least one ASCII digit, with any
number of leading zeros. A signed numeral may also start with a minus sign. A numeral that does
not fit the width asked for is refused. `unsigned_digits` says that a printed number reads back.
-/

namespace HostInfo.Numeral

/-- The decimal digits of a number, without leading zeros. -/
def digits (n : Nat) : List Char := Nat.toDigits 10 n

/-- One or more ASCII digits. -/
def natural? (s : List Char) : Option Nat :=
  if s ≠ [] ∧ s.all Char.isDigit then some (Nat.ofDigitChars 10 s 0) else none

/-- Digits with an optional plus sign. -/
def unsigned? : List Char → Option Nat
  | '+' :: s => natural? s
  | s => natural? s

/-- Digits with an optional sign. -/
def signed? : List Char → Option Int
  | '-' :: s => (natural? s).map fun n => -(n : Int)
  | s => (unsigned? s).map Int.ofNat

def uint32? (s : List Char) : Option UInt32 :=
  (unsigned? s).bind fun n => if h : n < UInt32.size then some (UInt32.ofNatLT n h) else none

def uint64? (s : List Char) : Option UInt64 :=
  (unsigned? s).bind fun n => if h : n < UInt64.size then some (UInt64.ofNatLT n h) else none

def int32? (s : List Char) : Option Int32 :=
  (signed? s).bind fun i => if -2 ^ 31 ≤ i ∧ i < 2 ^ 31 then some (Int32.ofInt i) else none

def int64? (s : List Char) : Option Int64 :=
  (signed? s).bind fun i => if -2 ^ 63 ≤ i ∧ i < 2 ^ 63 then some (Int64.ofInt i) else none

/-- The digits of `n`, filled up with zeros in front to at least `width` places. -/
def padded (width n : Nat) : List Char :=
  let ds := digits n
  List.replicate (width - ds.length) '0' ++ ds

/-! ## Hexadecimal digits -/

def hexDigit? (c : Char) : Option Nat :=
  if c.isDigit then some (c.toNat - '0'.toNat)
  else if 'a' ≤ c ∧ c ≤ 'f' then some (c.toNat - 'a'.toNat + 10)
  else if 'A' ≤ c ∧ c ≤ 'F' then some (c.toNat - 'A'.toNat + 10)
  else none

/-- The number that hexadecimal digits write. -/
def hex? (s : List Char) : Option Nat :=
  s.foldlM (fun n c => (hexDigit? c).map (n * 16 + ·)) 0

/-! ## Printed numbers read back -/

theorem digits_ne_nil (n : Nat) : digits n ≠ [] := Nat.toDigits_ne_nil

theorem isDigit_of_mem_digits {n : Nat} {c : Char} (h : c ∈ digits n) : c.isDigit :=
  Nat.isDigit_of_mem_toDigits (by decide) (by decide) h

theorem natural_digits (n : Nat) : natural? (digits n) = some n := by
  have hall : (digits n).all Char.isDigit = true :=
    List.all_eq_true.2 fun _ h => isDigit_of_mem_digits h
  simp [natural?, digits_ne_nil, hall]
  exact Nat.ofDigitChars_ten_toDigits

theorem unsigned_digits (n : Nat) : unsigned? (digits n) = some n := by
  have hd := natural_digits n
  have hm : ∀ c ∈ digits n, c.isDigit := fun _ h => isDigit_of_mem_digits h
  generalize digits n = s at hd hm
  unfold unsigned?
  split
  · exact absurd (hm '+' (by simp)) (by decide)
  · exact hd

end HostInfo.Numeral
