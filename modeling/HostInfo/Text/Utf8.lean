/-!
# UTF-8

Bytes are cut into pieces from the front: a character, or a longest run of bytes that starts a
character without completing it. Strict reading refuses every such run, lossy reading puts one
replacement character in its place.
-/

namespace HostInfo.Utf8

def encode (s : String) : List UInt8 := s.toList.flatMap String.utf8EncodeChar

/-- What a leading byte says: the bits it gives itself and the ranges of the bytes that follow. -/
structure Lead where
  bits : Nat
  ranges : List (Nat × Nat)

/-- No character has a longer form than it needs, none is a surrogate, and none is above the last
code point; the range of the second byte sees to that. -/
def lead? (b : UInt8) : Option Lead :=
  let n := b.toNat
  let tail := (0x80, 0xbf)
  if n < 0x80 then some ⟨n, []⟩
  else if n < 0xc2 then none
  else if n < 0xe0 then some ⟨n - 0xc0, [tail]⟩
  else if n < 0xf0 then
    let second := if n = 0xe0 then (0xa0, 0xbf) else if n = 0xed then (0x80, 0x9f) else tail
    some ⟨n - 0xe0, [second, tail]⟩
  else if n < 0xf5 then
    let second := if n = 0xf0 then (0x90, 0xbf) else if n = 0xf4 then (0x80, 0x8f) else tail
    some ⟨n - 0xf0, [second, tail, tail]⟩
  else none

/-- How far the bytes follow the ranges: the bytes taken, the code point if all ranges were
served, and the bytes left. -/
def follow (bits : Nat) : List (Nat × Nat) → List UInt8 → List UInt8 × Option Nat × List UInt8
  | [], bytes => ([], some bits, bytes)
  | _ :: _, [] => ([], none, [])
  | (lo, hi) :: ranges, b :: bytes =>
    if lo ≤ b.toNat ∧ b.toNat ≤ hi then
      let (taken, point, rest) := follow (bits * 64 + b.toNat % 64) ranges bytes
      (b :: taken, point, rest)
    else ([], none, b :: bytes)

inductive Piece where
  | char (c : Char)
  | broken (bytes : List UInt8)
deriving DecidableEq, Repr

/-- The piece at the front and what is left. -/
def piece (b : UInt8) (bytes : List UInt8) : Piece × List UInt8 :=
  match lead? b with
  | none => (.broken [b], bytes)
  | some lead =>
    match follow lead.bits lead.ranges bytes with
    | (_, some point, rest) => (.char (Char.ofNat point), rest)
    | (taken, none, rest) => (.broken (b :: taken), rest)

theorem length_follow_le (bits : Nat) (ranges : List (Nat × Nat)) (bytes : List UInt8) :
    (follow bits ranges bytes).2.2.length ≤ bytes.length := by
  induction bytes generalizing bits ranges with
  | nil => cases ranges <;> simp [follow]
  | cons b bytes ih =>
    cases ranges with
    | nil => simp [follow]
    | cons r ranges =>
      obtain ⟨lo, hi⟩ := r
      by_cases h : lo ≤ b.toNat ∧ b.toNat ≤ hi
      · simp only [follow, h, and_self, ↓reduceIte, List.length_cons]
        exact Nat.le_succ_of_le (ih _ _)
      · simp [follow, h]

theorem length_piece_le (b : UInt8) (bytes : List UInt8) :
    (piece b bytes).2.length ≤ bytes.length := by
  unfold piece
  split
  · simp
  · rename_i lead _
    have h := length_follow_le lead.bits lead.ranges bytes
    split <;> simp_all

def pieces : List UInt8 → List Piece
  | [] => []
  | b :: bytes =>
    have := length_piece_le b bytes
    (piece b bytes).1 :: pieces (piece b bytes).2
termination_by bytes => bytes.length

def Piece.char? : Piece → Option Char
  | .char c => some c
  | .broken _ => none

/-- The text, if all bytes are part of a character. -/
def decode? (bytes : List UInt8) : Option String :=
  ((pieces bytes).mapM Piece.char?).map String.ofList

/-- The text with U+FFFD for each run that is not a character. -/
def decodeLossy (bytes : List UInt8) : String :=
  String.ofList ((pieces bytes).map fun p => p.char?.getD '\ufffd')

end HostInfo.Utf8
