import HostInfo.Binary64.Basic
import HostInfo.Numeral

/-!
# Fixed places

A number written with a given number of decimal places: the exact value is rounded, a half going
to the even neighbour. The sign of a zero is kept.
-/

namespace HostInfo

/-- A number given in units of its last decimal place, with `places` digits after the point. -/
def Numeral.withPoint (places n : Nat) : List Char :=
  if places = 0 then digits n
  else digits (n / 10 ^ places) ++ '.' :: padded places (n % 10 ^ places)

namespace Binary64

/-- The magnitude in units of the last place. -/
def Quanta.inPlaces (places : Nat) (q : Quanta) : Nat :=
  roundHalfEven (q.count * 10 ^ places) one

def fixed (places : Nat) : Binary64 → String
  | .nan => "NaN"
  | .infinite s => if s then "-inf" else "inf"
  | .finite s q =>
    (if s then "-" else "") ++ String.ofList (Numeral.withPoint places (Quanta.inPlaces places q))

end Binary64

end HostInfo
