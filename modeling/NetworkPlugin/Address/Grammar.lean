import NetworkPlugin.Address.Basic
import NetworkPlugin.Text.Fields
import NetworkPlugin.Text.Numeral

/-!
# Reading addresses and subnets

IPv4 is four decimal octets; IPv6 is eight hexadecimal groups, of which one run of
zeros may be left out as `::` and the last two may be written as an IPv4 address.
A plain address and the address of a subnet follow slightly different grammars,
which one record tells apart.
-/

namespace NetworkPlugin

open Text

structure Grammar where
  paddedOctets : Bool
  /-- The fewest groups that `::` stands for. -/
  shortestGap : Nat
deriving DecidableEq, Repr

namespace Grammar

def plain : Grammar := ⟨false, 1⟩

def withLength : Grammar := ⟨true, 0⟩

/-! ## IPv4 -/

def octet? (grammar : Grammar) (text : List Char) : Option Nat :=
  if text.length ≤ 3 ∧ (grammar.paddedOctets ∨ hasNeedlessZero text = false) then
    (decodeNumeral? 10 text).filter (· < 256)
  else none

def positional (base : Nat) (digits : List Nat) : Nat :=
  digits.foldl (fun number digit => number * base + digit) 0

def v4? (grammar : Grammar) (text : List Char) : Option Nat :=
  match (split '.' text).mapM grammar.octet? with
  | some [a, b, c, d] => some (positional 256 [a, b, c, d])
  | _ => none

/-! ## IPv6 -/

def group? (text : List Char) : Option Nat :=
  if text.length ≤ 4 then decodeNumeral? 16 text else none

/-- Groups between colons; `quad` allows the last of them to be an IPv4 address,
which counts for two. -/
def groups? (grammar : Grammar) (quad : Bool) : List (List Char) → Option (List Nat)
  | [] => some []
  | [last] =>
      if quad && last.contains '.' then
        (grammar.v4? last).map fun value => [value / 65536, value % 65536]
      else (group? last).map ([·])
  | field :: fields => do
      let group ← group? field
      let rest ← groups? grammar quad fields
      some (group :: rest)

def side? (grammar : Grammar) (quad : Bool) (text : List Char) :
    Option (List Nat) :=
  if text = [] then some [] else groups? grammar quad (split ':' text)

def cutGap : List Char → Option (List Char × List Char)
  | ':' :: ':' :: rest => some ([], rest)
  | c :: rest => (cutGap rest).map fun (before, after) => (c :: before, after)
  | [] => none

def v6? (grammar : Grammar) (text : List Char) : Option Nat :=
  match cutGap text with
  | none => do
      let groups ← grammar.groups? true (split ':' text)
      if groups.length = 8 then some (positional 65536 groups) else none
  | some (before, after) => do
      let left ← grammar.side? false before
      let right ← grammar.side? true after
      if left.length < 8 ∧ left.length + right.length + grammar.shortestGap ≤ 8 then
        let gap := List.replicate (8 - left.length - right.length) 0
        some (positional 65536 (left ++ gap ++ right))
      else none

def address? (grammar : Grammar) (family : Family) (text : List Char) :
    Option (Address family) :=
  (match family with
    | .v4 => grammar.v4? text
    | .v6 => grammar.v6? text).map Address.ofNat

end Grammar

/-! ## Texts -/

def Address.parse? (family : Family) (text : String) : Option (Address family) :=
  Grammar.plain.address? family text.toList

/-- IPv4 is tried first; no text is an address of both families. -/
def AnyAddress.parse? (text : String) : Option AnyAddress :=
  ((Address.parse? .v4 text).map fun address => ⟨.v4, address⟩) <|>
    (Address.parse? .v6 text).map fun address => ⟨.v6, address⟩

/-- Prefix lengths are decimal, with as many digits as the largest one has. -/
def Family.prefixLength? (family : Family) (text : List Char) : Option Nat :=
  if text.length ≤ (encodeNumeral 10 family.width).length then
    (decodeNumeral? 10 text).filter (· ≤ family.width)
  else none

def Subnet.parse? (family : Family) (text : String) : Option (Subnet family) :=
  match split '/' text.toList with
  | [before, after] => do
      let address ← Grammar.withLength.address? family before
      let length ← family.prefixLength? after
      if h : length ≤ family.width then some ⟨address, length, h⟩ else none
  | _ => none

def AnySubnet.parse? (text : String) : Option AnySubnet :=
  ((Subnet.parse? .v4 text).map fun subnet => ⟨.v4, subnet⟩) <|>
    (Subnet.parse? .v6 text).map fun subnet => ⟨.v6, subnet⟩

end NetworkPlugin
