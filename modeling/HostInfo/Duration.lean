import HostInfo.Size

/-!
# Lengths of time

A duration is written with its two largest units from days, hours, minutes and seconds, and with
seconds alone below a minute. What is smaller than the second unit is cut off.
-/

namespace HostInfo.Duration

/-- A whole number of seconds. -/
def ofSeconds (style : Style) (n : Nat) : String :=
  let gap := match style with
    | .compact => ""
    | .detail => " "
  if n < 60 then toString n ++ "s"
  else if n < 3600 then toString (n / 60) ++ "m" ++ gap ++ toString (n % 60) ++ "s"
  else if n < 86400 then toString (n / 3600) ++ "h" ++ gap ++ toString (n % 3600 / 60) ++ "m"
  else toString (n / 86400) ++ "d" ++ gap ++ toString (n % 86400 / 3600) ++ "h"

/-- A number of seconds; a negative one stands for an unknown duration. -/
def text (style : Style) (seconds : Binary64) : String :=
  if seconds < 0 then "-" else ofSeconds style seconds.toUInt64.toNat

/-- Milliseconds, as such below a second. -/
def millisText (ms : UInt64) : String :=
  if 1000 ≤ ms then text .compact (Binary64.ofNat ms.toNat / 1000)
  else toString ms ++ "ms"

end HostInfo.Duration
