import NetworkPlugin.Text.Fields
import NetworkPlugin.Text.Numeral

/-!
# Hardware addresses

Six octets.  The text form has two hexadecimal digits per octet; it is printed
in lower case with colons and read with either colons or hyphens throughout.
-/

namespace NetworkPlugin

open Text

structure HardwareAddress where
  first : UInt8
  second : UInt8
  third : UInt8
  fourth : UInt8
  fifth : UInt8
  sixth : UInt8
deriving DecidableEq, Repr, Inhabited

namespace HardwareAddress

def octets (address : HardwareAddress) : List UInt8 :=
  [address.first, address.second, address.third, address.fourth, address.fifth,
    address.sixth]

def ofOctets? : List UInt8 → Option HardwareAddress
  | [first, second, third, fourth, fifth, sixth] =>
      some ⟨first, second, third, fourth, fifth, sixth⟩
  | _ => none

@[simp] theorem ofOctets?_octets (address : HardwareAddress) :
    ofOctets? address.octets = some address := rfl

/-! ## Text form -/

def decodeOctet? (text : List Char) : Option UInt8 :=
  if text.length = 2 then (decodeNumeral? 16 text).map Nat.toUInt8 else none

def encodeOctet (octet : UInt8) : List Char :=
  [Nat.digitChar (octet.toNat / 16), Nat.digitChar (octet.toNat % 16)]

/-- One hyphen anywhere makes the hyphen the separator. -/
def separator (text : List Char) : Char :=
  if '-' ∈ text then '-' else ':'

def parse? (text : String) : Option HardwareAddress :=
  ((split (separator text.toList) text.toList).mapM decodeOctet?).bind ofOctets?

def render (address : HardwareAddress) : String :=
  String.ofList (join ':' (address.octets.map encodeOctet))

theorem decodeOctet?_encodeOctet (octet : UInt8) :
    decodeOctet? (encodeOctet octet) = some octet := by
  have all : ∀ octet : BitVec 8,
      decodeOctet? (encodeOctet (UInt8.ofBitVec octet)) = some (UInt8.ofBitVec octet) := by
    decide +kernel
  exact all octet.toBitVec

theorem not_mem_encodeOctet {c : Char} (octet : UInt8) (h : c = ':' ∨ c = '-') :
    c ∉ encodeOctet octet := by
  have all : ∀ octet : BitVec 8, ':' ∉ encodeOctet (UInt8.ofBitVec octet) ∧
      '-' ∉ encodeOctet (UInt8.ofBitVec octet) := by
    decide +kernel
  rcases h with rfl | rfl
  · exact (all octet.toBitVec).1
  · exact (all octet.toBitVec).2

theorem separator_join_encodeOctet (octets : List UInt8) :
    separator (join ':' (octets.map encodeOctet)) = ':' := by
  have absent : '-' ∉ join ':' (octets.map encodeOctet) := by
    induction octets with
    | nil => simp [join]
    | cons octet octets ih =>
        have hoctet := not_mem_encodeOctet octet (Or.inr rfl)
        cases octets with
        | nil => simpa [join] using hoctet
        | cons second others =>
            simp only [join, List.map_cons] at ih ⊢
            rw [List.intercalate_cons_cons]
            simp [hoctet, ih]
  exact if_neg absent

theorem mapM_decodeOctet?_encodeOctet (octets : List UInt8) :
    (octets.map encodeOctet).mapM decodeOctet? = some octets := by
  induction octets with
  | nil => rfl
  | cons octet octets ih => simp [ih, decodeOctet?_encodeOctet]

theorem parse?_render (address : HardwareAddress) : parse? address.render = some address := by
  have fields : ∀ field ∈ address.octets.map encodeOctet, ':' ∉ field := by
    intro field member
    obtain ⟨octet, _, rfl⟩ := List.mem_map.mp member
    exact not_mem_encodeOctet octet (Or.inl rfl)
  have nonempty : address.octets.map encodeOctet ≠ [] := by simp [octets]
  simp only [parse?, render, String.toList_ofList, separator_join_encodeOctet,
    split_join nonempty fields, mapM_decodeOctet?_encodeOctet, Option.bind_some,
    ofOctets?_octets]

/-! ## Addresses chosen locally -/

def IsLocalUnicast (address : HardwareAddress) : Prop :=
  address.first &&& 0x03 = 0x02

instance (address : HardwareAddress) : Decidable address.IsLocalUnicast :=
  inferInstanceAs (Decidable (_ = _))

def localUnicast (address : HardwareAddress) : HardwareAddress :=
  { address with first := (address.first &&& 0xfe) ||| 0x02 }

theorem isLocalUnicast_localUnicast (address : HardwareAddress) :
    address.localUnicast.IsLocalUnicast := by
  have bits : ∀ octet : BitVec 8,
      ((octet &&& 0xfe#8) ||| 0x02#8) &&& 0x03#8 = 0x02#8 := by decide
  exact congrArg UInt8.ofBitVec (bits address.first.toBitVec)

end HardwareAddress

end NetworkPlugin
