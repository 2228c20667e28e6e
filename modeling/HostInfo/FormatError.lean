/-!
# Why a kernel text cannot be read

The causes for which the reader of a status line, of the counters or of a frequency file gives
up. The first cause met is the one reported.
-/

namespace HostInfo

inductive FormatError where
  /-- A status line without an opening parenthesis. -/
  | noCommand
  /-- What stands before the parenthesis is no process id. -/
  | badPid
  /-- No closing parenthesis followed by a space. -/
  | openCommand
  | missingField (name : String)
  | badField (name text : String)
  /-- A core's key whose number is out of range or not a number. -/
  | badCoreKey (key : String)
  /-- A frequency file that holds something else than a whole number. -/
  | badFrequency (text : String)
  | frequencyTooHigh (kilohertz : UInt64)
deriving DecidableEq, Repr

namespace FormatError

def message : FormatError → String
  | .noCommand => "missing '(' in stat"
  | .badPid => "invalid pid"
  | .openCommand => "unterminated comm in stat"
  | .missingField name => "missing field " ++ name
  | .badField name text => "invalid " ++ name ++ ": '" ++ text ++ "'"
  | .badCoreKey key => "invalid cpu key: '" ++ key ++ "'"
  | .badFrequency text => "expected integer kHz value, got '" ++ text ++ "'"
  | .frequencyTooHigh kilohertz =>
    "frequency out of range: " ++ toString kilohertz ++ " kHz"

/-- The message as it stands on its own. -/
def describe (e : FormatError) : String := "parse error: " ++ e.message

end FormatError

end HostInfo
