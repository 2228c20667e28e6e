import HostInfo.Binary64.Basic
import HostInfo.Numeral

/-!
# Reading decimal numbers

An optional sign, then one of the words `inf`, `infinity` and `nan` in any case, or digits with
at most one point and at least one digit, and an optional exponent. The exact value is rounded
once.
-/

namespace HostInfo.Binary64

/-- A decimal number as written: all its digits as one whole number and a power of ten. -/
structure Written where
  significand : List Char
  exponent : Int

/-- The exponent part, which may be missing. -/
def exponent? : List Char → Option Int
  | [] => some 0
  | c :: s => if c = 'e' ∨ c = 'E' then Numeral.signed? s else none

def Written.ofChars? (s : List Char) : Option Written :=
  let before := s.takeWhile Char.isDigit
  let rest := s.dropWhile Char.isDigit
  let after := match rest with
    | '.' :: r => r.takeWhile Char.isDigit
    | _ => []
  let tail := match rest with
    | '.' :: r => r.dropWhile Char.isDigit
    | _ => rest
  if before = [] ∧ after = [] then none
  else (exponent? tail).map fun e => ⟨before ++ after, e - after.length⟩

/-- The binary64 number nearest to the written one. The powers of ten are built only where the
result is neither zero nor infinite. -/
def Written.round (negative : Bool) (w : Written) : Binary64 :=
  let n := Nat.ofDigitChars 10 w.significand 0
  let leading : Int := w.exponent + (Numeral.digits n).length
  if n = 0 ∨ leading < -400 then zero negative
  else if 400 < leading then .infinite negative
  else ofRatio negative (n * 10 ^ w.exponent.toNat) (10 ^ (-w.exponent).toNat)

def unsigned? (negative : Bool) (s : List Char) : Option Binary64 :=
  let word := s.map Char.toLower
  if word = "nan".toList then some .nan
  else if word = "inf".toList ∨ word = "infinity".toList then some (.infinite negative)
  else (Written.ofChars? s).map (Written.round negative)

def ofChars? : List Char → Option Binary64
  | '-' :: s => unsigned? true s
  | '+' :: s => unsigned? false s
  | s => unsigned? false s

end HostInfo.Binary64
