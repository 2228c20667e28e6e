import HostInfo.Binary64.Shortest

/-!
# The text of a binary64 number in JSON

The shortest digits that read back. A number whose leading digit stands for 10 ^ e is written
positionally for -5 ≤ e ≤ 15, with at least one digit after the point, and otherwise with an
exponent that always has a sign. NaN and the infinities have no JSON number and become `null`.
-/

namespace HostInfo.Json

/-- Digits with the point in place; `s.exponent` places it. -/
def positional (s : Scientific) : List Char :=
  let ds := Numeral.digits s.digits
  let leading := s.exponent + ds.length - 1
  if 0 ≤ s.exponent then ds ++ List.replicate s.exponent.toNat '0' ++ ['.', '0']
  else if 0 ≤ leading then ds.take (leading.toNat + 1) ++ '.' :: ds.drop (leading.toNat + 1)
  else '0' :: '.' :: List.replicate (-leading - 1).toNat '0' ++ ds

/-- One digit, the others after a point, and the exponent of the first digit. -/
def scientific (s : Scientific) : List Char :=
  let ds := Numeral.digits s.digits
  let leading := s.exponent + ds.length - 1
  let rest := ds.drop 1
  ds.take 1 ++ (if rest = [] then [] else '.' :: rest) ++
    ['e', if leading < 0 then '-' else '+'] ++ Numeral.digits leading.natAbs

/-- The magnitude of a number of quanta. -/
def magnitude (q : Nat) : List Char :=
  let s := Binary64.shortest q
  let leading := s.exponent + (Numeral.digits s.digits).length - 1
  if -5 ≤ leading ∧ leading ≤ 15 then positional s else scientific s

def numberText : Binary64 → List Char
  | .nan => "null".toList
  | .infinite _ => "null".toList
  | .finite s q => (if s then ['-'] else []) ++ magnitude q.count

end HostInfo.Json
