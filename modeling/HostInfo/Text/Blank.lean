/-!
# Blank characters

The characters with the Unicode property White_Space, and the removal of them from the ends of
a text.
-/

namespace HostInfo.Text

/-- The Unicode property White_Space. -/
def isBlank (c : Char) : Bool :=
  ('\t' ≤ c ∧ c ≤ '\x0d') ∨ c = ' ' ∨ c = '\u0085' ∨ c = '\u00a0' ∨ c = '\u1680' ∨
  ('\u2000' ≤ c ∧ c ≤ '\u200a') ∨ c = '\u2028' ∨ c = '\u2029' ∨ c = '\u202f' ∨
  c = '\u205f' ∨ c = '\u3000'

def trimStart (s : List Char) : List Char := s.dropWhile isBlank

def trimEnd (s : List Char) : List Char := (s.reverse.dropWhile isBlank).reverse

/-- Drops the blanks at both ends. -/
def trim (s : List Char) : List Char := trimStart (trimEnd s)

end HostInfo.Text
