/-!
# Columns

Text filled up with spaces to a width counted in characters.
-/

namespace HostInfo.Text

/-- Spaces in front. -/
def padStart (width : Nat) (s : String) : String :=
  String.ofList (List.replicate (width - s.length) ' ') ++ s

/-- Spaces behind. -/
def padEnd (width : Nat) (s : String) : String :=
  s ++ String.ofList (List.replicate (width - s.length) ' ')

end HostInfo.Text
