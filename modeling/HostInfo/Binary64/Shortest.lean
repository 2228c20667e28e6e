import HostInfo.Binary64.Basic
import HostInfo.Numeral

/-!
# Shortest digits

The decimal number with the fewest digits that reads back as a given binary64 number, and of
those the one nearest to it. For each count of digits the two neighbours of the number on that
decimal grid are tried; the first grid with a hit wins.
-/

namespace HostInfo

/-- The number `digits * 10 ^ exponent`. -/
structure Scientific where
  digits : Nat
  exponent : Int
deriving DecidableEq, Repr

namespace Scientific

/-- Numerator and denominator of the number. -/
def ratio (s : Scientific) : Nat × Nat :=
  (s.digits * 10 ^ s.exponent.toNat, 10 ^ (-s.exponent).toNat)

/-- The same number without zeros at the end of its digits. -/
def trimmed (s : Scientific) : Scientific :=
  let ds := Numeral.digits s.digits
  let zeros := (ds.reverse.takeWhile (· = '0')).length
  if s.digits = 0 then s else ⟨s.digits / 10 ^ zeros, s.exponent + zeros⟩

end Scientific

namespace Binary64

/-- The exponent of the leading decimal digit of a number of quanta other than zero. -/
def leadingExponent (q : Nat) : Int :=
  ((Numeral.digits (q * 10 ^ 400 / one)).length : Int) - 401

/-- Reading the decimal gives back `q` quanta. -/
def readsBack (q : Nat) (s : Scientific) : Bool :=
  nearest (s.ratio.1 * one) s.ratio.2 = q

/-- The neighbours of `q` quanta on the decimal grid with spacing `10 ^ exponent`, below first,
each with its distance in a common unit. -/
def neighbours (q : Nat) (exponent : Int) : List (Scientific × Nat) :=
  let n := q * 10 ^ (-exponent).toNat
  let d := one * 10 ^ exponent.toNat
  [(⟨n / d, exponent⟩, n % d), (⟨n / d + 1, exponent⟩, d - n % d)]

/-- The nearest neighbour that reads back; of two equally near ones the even one. -/
def candidate? (q : Nat) (exponent : Int) : Option Scientific :=
  match (neighbours q exponent).filter fun s => readsBack q s.1 with
  | [(a, x), (b, y)] =>
    some (if x < y ∨ (x = y ∧ a.digits % 2 = 0) then a else b)
  | [(a, _)] => some a
  | _ => none

/-- Seventeen digits are always enough. -/
def shortest (q : Nat) : Scientific :=
  if q = 0 then ⟨0, 0⟩
  else
    let e := leadingExponent q
    let found := (List.range 17).findSome? fun k : Nat => candidate? q (e - k)
    (found.getD ⟨0, 0⟩).trimmed

end Binary64

end HostInfo
