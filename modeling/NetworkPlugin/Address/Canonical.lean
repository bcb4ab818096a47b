import NetworkPlugin.Address.Basic
import NetworkPlugin.Text.Fields
import NetworkPlugin.Text.Numeral

/-!
# Canonical text of addresses and subnets

IPv4 is written as a dotted quad.  IPv6 is written in lower case without leading
zeros; the longest run of at least two zero groups, the leftmost of equally long
ones, becomes `::`, and IPv4-mapped addresses end in a dotted quad.
-/

namespace NetworkPlugin

open Text

def digitsOf (base : Nat) : Nat → Nat → List Nat
  | 0, _ => []
  | count + 1, number => digitsOf base count (number / base) ++ [number % base]

theorem length_digitsOf (base count number : Nat) :
    (digitsOf base count number).length = count := by
  induction count generalizing number with
  | zero => rfl
  | succ count ih => simp [digitsOf, ih]

/-! ## IPv4 -/

def encodeQuad (value : Nat) : List Char :=
  join '.' ((digitsOf 256 4 value).map (encodeNumeral 10))

/-! ## IPv6 -/

def leadingZeros (groups : List Nat) : Nat := (groups.takeWhile (· = 0)).length

/-- Position and length of the longest run of zeros, the leftmost of equal ones. -/
def longestRun : List Nat → Nat × Nat
  | [] => (0, 0)
  | group :: groups =>
      let here := leadingZeros (group :: groups)
      let (position, length) := longestRun groups
      if length ≤ here then (0, here) else (position + 1, length)

def encodeGroups (groups : List Nat) : List Char :=
  join ':' (groups.map (encodeNumeral 16))

def encodeCompressed (groups : List Nat) : List Char :=
  let (position, length) := longestRun groups
  if 2 ≤ length then
    encodeGroups (groups.take position) ++ "::".toList ++
      encodeGroups (groups.drop (position + length))
  else encodeGroups groups

/-- Eighty zero bits and sixteen one bits stand before the IPv4 address. -/
def IsMapped (value : Nat) : Prop := value >>> 32 = 0xffff

instance (value : Nat) : Decidable (IsMapped value) :=
  inferInstanceAs (Decidable (_ = _))

def encodeAddress : (family : Family) → Nat → List Char
  | .v4, value => encodeQuad value
  | .v6, value =>
      if IsMapped value then "::ffff:".toList ++ encodeQuad (value % 0x100000000)
      else encodeCompressed (digitsOf 65536 8 value)

/-! ## Texts -/

def Address.render {family : Family} (address : Address family) : String :=
  String.ofList (encodeAddress family address.value)

def AnyAddress.render (address : AnyAddress) : String := Address.render address.2

def Subnet.render {family : Family} (subnet : Subnet family) : String :=
  String.ofList
    (encodeAddress family subnet.address.value ++
      '/' :: encodeNumeral 10 subnet.length)

def AnySubnet.render (subnet : AnySubnet) : String := Subnet.render subnet.2

end NetworkPlugin
