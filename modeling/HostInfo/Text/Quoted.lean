import HostInfo.Text.Printable
import HostInfo.Text.Utf8

/-!
# Quoted bytes

Bytes between quotes: the quote, the backslash and the characters that cannot be shown are
escaped, and so is every byte that is not part of a character.
-/

namespace HostInfo.Text

def quotedChar (c : Char) : List Char :=
  match c with
  | '\x00' => ['\\', '0']
  | '\t' => ['\\', 't']
  | '\n' => ['\\', 'n']
  | '\r' => ['\\', 'r']
  | '"' => ['\\', '"']
  | '\\' => ['\\', '\\']
  | c =>
    if isPrintable c then [c]
    else ['\\', 'u', '\x7b'] ++ Nat.toDigits 16 c.toNat ++ ['\x7d']

/-- Two upper-case hexadecimal digits. -/
def quotedByte (b : UInt8) : List Char :=
  ['\\', 'x', (Nat.digitChar (b.toNat / 16)).toUpper, (Nat.digitChar (b.toNat % 16)).toUpper]

def quotedPiece : Utf8.Piece → List Char
  | .char c => quotedChar c
  | .broken bytes => bytes.flatMap quotedByte

def quoted (bytes : List UInt8) : String :=
  String.ofList ('"' :: (Utf8.pieces bytes).flatMap quotedPiece ++ ['"'])

end HostInfo.Text
