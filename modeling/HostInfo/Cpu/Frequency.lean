import HostInfo.FormatError
import HostInfo.Numeral
import HostInfo.Text.Blank

/-!
# The highest frequency of a core

A file of its own holds the highest frequency of a core in kHz.
-/

namespace HostInfo.Cpu

/-- The frequency in whole MHz. -/
def megahertz (text : String) : Except FormatError UInt32 :=
  let s := Text.trim text.toList
  match Numeral.uint64? s with
  | none => .error (.badFrequency (String.ofList s))
  | some kilohertz =>
    let mhz := kilohertz.toNat / 1000
    if h : mhz < UInt32.size then .ok (UInt32.ofNatLT mhz h)
    else .error (.frequencyTooHigh kilohertz)

end HostInfo.Cpu
