/-!
# Places in bytes

A place in a text is the number of UTF-8 bytes in front of it.
-/

namespace HostInfo.Text

/-- The number of bytes of a text. -/
def byteSize : List Char → Nat
  | [] => 0
  | c :: s => c.utf8Size + byteSize s

/-- The text from a place on. There is none in the middle of a character. -/
def bytesFrom? : List Char → Nat → Option (List Char)
  | s, 0 => some s
  | [], _ => none
  | c :: s, n => if c.utf8Size ≤ n then bytesFrom? s (n - c.utf8Size) else none

/-- The text up to a place. -/
def bytesUpTo? : List Char → Nat → Option (List Char)
  | _, 0 => some []
  | [], _ => none
  | c :: s, n => if c.utf8Size ≤ n then (bytesUpTo? s (n - c.utf8Size)).map (c :: ·) else none

/-- The text between two places. -/
def bytesBetween? (s : List Char) (start stop : Nat) : Option (List Char) :=
  (bytesFrom? s start).bind fun rest => bytesUpTo? rest (stop - start)

end HostInfo.Text
