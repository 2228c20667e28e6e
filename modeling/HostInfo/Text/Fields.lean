/-!
# Fields and lines

A field is a longest run of characters other than the five ASCII blanks. A line ends at a line
feed, which is not part of it, nor is one carriage return right before the line feed.
-/

namespace HostInfo.Text

/-- The blanks that part fields: space, tab, line feed, form feed and carriage return. -/
def isFieldBlank (c : Char) : Bool :=
  c = ' ' ∨ c = '\t' ∨ c = '\n' ∨ c = '\x0c' ∨ c = '\r'

/-- The fields of a text, in order; none is empty. -/
def fields (s : List Char) : List (List Char) :=
  (s.splitOnP isFieldBlank).filter (· ≠ [])

/-- A line without the carriage return at its end. -/
def withoutReturn (s : List Char) : List Char :=
  if s.getLast? = some '\r' then s.dropLast else s

/-- The lines of a text. Text after the last line feed is a line too, unless it is empty, and
keeps a carriage return at its end. -/
def lines (s : List Char) : List (List Char) :=
  let pieces := s.splitOn '\n'
  pieces.dropLast.map withoutReturn ++ pieces.getLast?.toList.filter (· ≠ [])

end HostInfo.Text
