/-!
# Ranges of characters

A class of characters is given by the ranges of code points that make it up.
-/

namespace HostInfo.Text

/-- First and last code point of each range, in ascending order. -/
abbrev Ranges := Array (Nat × Nat)

/-- Whether a character is in one of the ranges. -/
def Ranges.hold (ranges : Ranges) (c : Char) : Bool :=
  ranges.any fun (first, last) => first ≤ c.toNat && c.toNat ≤ last

end HostInfo.Text
