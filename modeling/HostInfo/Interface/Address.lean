import HostInfo.Numeral

/-!
# Network addresses

The addresses that an interface can carry and the text of those of the internet families.
-/

namespace HostInfo.Interface

structure Ipv4 where
  bytes : Vector UInt8 4
deriving DecidableEq

structure Ipv6 where
  groups : Vector UInt16 8
deriving DecidableEq

/-- Parts with a mark between them. -/
def joined (mark : Char) : List (List Char) → List Char
  | [] => []
  | [part] => part
  | part :: parts => part ++ mark :: joined mark parts

def Ipv4.chars (a : Ipv4) : List Char :=
  joined '.' (a.bytes.toList.map fun b => Numeral.digits b.toNat)

namespace Ipv6

def groupText (groups : List UInt16) : List Char :=
  joined ':' (groups.map fun g => Nat.toDigits 16 g.toNat)

/-- The number of zero groups from position `i` on. -/
def zerosAt (groups : List UInt16) (i : Nat) : Nat :=
  ((groups.drop i).takeWhile (· = 0)).length

/-- Start and length of the longest run of zero groups, the first one of several. -/
def longestZeros (groups : List UInt16) : Nat × Nat :=
  (List.range groups.length).foldl
    (fun best i => if best.2 < zerosAt groups i then (i, zerosAt groups i) else best) (0, 0)

/-- The four bytes of an address that stands for an IPv4 address. -/
def mapped? (a : Ipv6) : Option Ipv4 :=
  match a.groups.toList with
  | [0, 0, 0, 0, 0, 0xffff, g, h] =>
    some ⟨#v[(g >>> 8).toUInt8, g.toUInt8, (h >>> 8).toUInt8, h.toUInt8]⟩
  | _ => none

/-- The longest run of at least two zero groups is left out between two colons; the last four
bytes of a mapped address are written as an IPv4 address. -/
def chars (a : Ipv6) : List Char :=
  match a.mapped? with
  | some v4 => "::ffff:".toList ++ v4.chars
  | none =>
    let groups := a.groups.toList
    let (start, length) := longestZeros groups
    if length < 2 then groupText groups
    else groupText (groups.take start) ++ [':', ':'] ++ groupText (groups.drop (start + length))

end Ipv6

/-- An address as the system lists it. -/
inductive Address where
  | v4 (address : Ipv4)
  | v6 (address : Ipv6)
  /-- The address of the link layer. -/
  | link
  /-- An address of any other family. -/
  | other (family : UInt16)
deriving DecidableEq

end HostInfo.Interface
