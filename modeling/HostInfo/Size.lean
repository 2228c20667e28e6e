import HostInfo.Binary64.Fixed

/-!
# Amounts of memory

An amount is written in the largest unit it reaches, with one decimal place, and below the
smallest multiple as a whole number of bytes. Which unit is used depends on the exact amount,
before it is rounded.
-/

namespace HostInfo

/-- How wordy a text is. -/
inductive Style where
  | compact
  | detail
deriving DecidableEq, Repr

inductive SizeUnit where
  | byte
  | kibi
  | mebi
  | gibi
deriving DecidableEq, Repr

namespace SizeUnit

/-- The unit in bytes. -/
def bytes : SizeUnit → Nat
  | .byte => 1
  | .kibi => 2 ^ 10
  | .mebi => 2 ^ 20
  | .gibi => 2 ^ 30

def label : Style → SizeUnit → String
  | .compact, .byte => "B"
  | .compact, .kibi => "K"
  | .compact, .mebi => "M"
  | .compact, .gibi => "G"
  | .detail, .byte => " B"
  | .detail, .kibi => " KiB"
  | .detail, .mebi => " MiB"
  | .detail, .gibi => " GiB"

/-- The largest unit that `n` bytes reach. -/
def fitting (n : Nat) : SizeUnit :=
  if gibi.bytes ≤ n then .gibi
  else if mebi.bytes ≤ n then .mebi
  else if kibi.bytes ≤ n then .kibi
  else .byte

end SizeUnit

namespace Size

/-- The number that stands before the unit. -/
def numberText (n : UInt64) : String :=
  match SizeUnit.fitting n.toNat with
  | .byte => String.ofList (Numeral.digits n.toNat)
  | unit => (Binary64.ofNat n.toNat / Binary64.ofNat unit.bytes).fixed 1

def text (style : Style) (n : UInt64) : String :=
  numberText n ++ (SizeUnit.fitting n.toNat).label style

end Size

end HostInfo
