/-!
# Internet addresses and subnets

An address of a family is a number of `width` bits.  A subnet is an address with
a prefix length and keeps its host bits, so the same type names a pool and the
address of an interface inside one.
-/

namespace NetworkPlugin

theorem shiftLeft_one_pos (bits : Nat) : 0 < 1 <<< bits := by
  rw [Nat.one_shiftLeft]
  exact Nat.two_pow_pos bits

inductive Family where
  | v4
  | v6
deriving DecidableEq, Repr, Inhabited

namespace Family

def width : Family → Nat
  | v4 => 32
  | v6 => 128

def size (family : Family) : Nat := 1 <<< family.width

theorem size_pos (family : Family) : 0 < family.size := shiftLeft_one_pos _

def name : Family → String
  | v4 => "IPv4"
  | v6 => "IPv6"

def hasBroadcast : Family → Bool
  | v4 => true
  | v6 => false

def select? {Value : Family → Type} (family : Family)
    (tagged : (f : Family) × Value f) : Option (Value family) :=
  if h : tagged.1 = family then some (h ▸ tagged.2) else none

@[simp] theorem select?_mk {Value : Family → Type} (family : Family)
    (value : Value family) : select? family ⟨family, value⟩ = some value := by
  simp [select?]

theorem select?_eq_some_iff {Value : Family → Type} {family : Family}
    {tagged : (f : Family) × Value f} {value : Value family} :
    select? family tagged = some value ↔ tagged = ⟨family, value⟩ := by
  obtain ⟨tag, content⟩ := tagged
  constructor
  · intro h
    unfold select? at h
    split at h
    · next same =>
        cases same
        cases h
        rfl
    · cases h
  · rintro h
    cases h
    exact select?_mk _ _

end Family

/-! ## Addresses -/

structure Address (family : Family) where
  value : Nat
  value_lt : value < family.size
deriving DecidableEq

namespace Address

/-- The address of a number, taken modulo the size of the family. -/
def ofNat {family : Family} (number : Nat) : Address family :=
  ⟨number % family.size, Nat.mod_lt _ family.size_pos⟩

theorem value_ofNat {family : Family} {number : Nat}
    (h : number < family.size) :
    (ofNat number : Address family).value = number := Nat.mod_eq_of_lt h

@[simp] theorem ofNat_value {family : Family} (address : Address family) :
    ofNat address.value = address := by
  cases address with
  | mk value value_lt => simp [ofNat, Nat.mod_eq_of_lt value_lt]

end Address

abbrev AnyAddress := (family : Family) × Address family

instance : DecidableEq AnyAddress := instDecidableEqSigma

/-! ## Subnets -/

structure Subnet (family : Family) where
  address : Address family
  length : Nat
  length_le : length ≤ family.width
deriving DecidableEq

abbrev AnySubnet := (family : Family) × Subnet family

instance : DecidableEq AnySubnet := instDecidableEqSigma

namespace Subnet

variable {family : Family}

/-- An address with a prefix length, which cannot be greater than the width. -/
def ofParts? (address : Address family) (length : Nat) : Option (Subnet family) :=
  if h : length ≤ family.width then some ⟨address, length, h⟩ else none

@[simp] theorem ofParts?_length (address : Address family) (subnet : Subnet family) :
    ofParts? address subnet.length = some ⟨address, subnet.length, subnet.length_le⟩ :=
  dif_pos subnet.length_le

def size (subnet : Subnet family) : Nat := 1 <<< (family.width - subnet.length)

def network (subnet : Subnet family) : Nat :=
  subnet.address.value / subnet.size * subnet.size

def last (subnet : Subnet family) : Nat := subnet.network + (subnet.size - 1)

def Contains (subnet : Subnet family) (address : Address family) : Prop :=
  subnet.network ≤ address.value ∧ address.value ≤ subnet.last

instance (subnet : Subnet family) (address : Address family) :
    Decidable (subnet.Contains address) :=
  inferInstanceAs (Decidable (_ ∧ _))

/-- At least two prefix bits are missing, so that network and last address differ
from the addresses between them. -/
def HasInterior (subnet : Subnet family) : Prop := subnet.length + 1 < family.width

instance (subnet : Subnet family) : Decidable subnet.HasInterior :=
  inferInstanceAs (Decidable (_ < _))

/-- A subnet with an interior keeps its network address, and in a family that
broadcasts its last address too, from hosts. -/
def IsHost (subnet : Subnet family) (address : Address family) : Prop :=
  subnet.HasInterior →
    address.value ≠ subnet.network ∧
      (family.hasBroadcast = true → address.value ≠ subnet.last)

instance (subnet : Subnet family) (address : Address family) :
    Decidable (subnet.IsHost address) :=
  inferInstanceAs (Decidable (_ → _))

/-- How many addresses follow the network address, without a broadcast address. -/
def successors (subnet : Subnet family) : Nat :=
  if subnet.HasInterior ∧ family.hasBroadcast = true then subnet.size - 2
  else subnet.size - 1

theorem size_pos (subnet : Subnet family) : 0 < subnet.size :=
  shiftLeft_one_pos _

end Subnet

end NetworkPlugin
