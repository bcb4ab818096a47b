import NetworkPlugin.Proofs.Registry.AddressSafety

/-!
# The candidates of a pool

The addresses that are assigned when none is requested, said without the search for them:
all of the pool in increasing order but its network address and, for IPv4, its broadcast
address, of which only the first ones are looked at.
-/

namespace NetworkPlugin

namespace Subnet

variable {family : Family} (subnet : Subnet family)

def ofNumbers (family : Family) (number length : Nat) : Subnet family :=
  ⟨.ofNat number, min length family.width, Nat.min_le_right _ _⟩

def assignable : List Nat :=
  (List.range' subnet.network subnet.size).filter fun number =>
    decide (number ≠ subnet.network ∧
      (family = .v4 → subnet.length < 31 → number ≠ subnet.last))

/-- The addresses that are looked at in search of a free one. -/
def probed : List (Address family) := (subnet.assignable.take 65536).map Address.ofNat

theorem four_le_size {subnet : Subnet family} (interior : subnet.HasInterior) :
    4 ≤ subnet.size := by
  unfold HasInterior at interior
  have exponent : 2 ≤ family.width - subnet.length := by omega
  unfold size
  rw [Nat.one_shiftLeft]
  calc
    4 = 2 ^ 2 := rfl
    _ ≤ 2 ^ (family.width - subnet.length) := Nat.pow_le_pow_right (by omega) exponent

theorem broadcasts_iff :
    subnet.HasInterior ∧ family.hasBroadcast = true ↔ family = .v4 ∧ subnet.length < 31 := by
  rw [hasInterior_iff]
  cases family <;> simp [Family.hasBroadcast, Family.pointToPoint]

theorem assignable_eq_range' :
    subnet.assignable = List.range' (subnet.network + 1) subnet.successors := by
  have positive := subnet.size_pos
  obtain ⟨count, size⟩ : ∃ count, subnet.size = count + 1 := ⟨subnet.size - 1, by omega⟩
  have last : subnet.last = subnet.network + count := by
    unfold Subnet.last
    omega
  unfold assignable successors
  rw [size, List.range'_succ, List.filter_cons_of_neg (by simp)]
  split
  · next broadcasts =>
      have room := four_le_size broadcasts.1
      obtain ⟨isV4, short⟩ := subnet.broadcasts_iff.mp broadcasts
      obtain ⟨inner, rfl⟩ : ∃ inner, count = inner + 1 := ⟨count - 1, by omega⟩
      have kept : ∀ number ∈ List.range' (subnet.network + 1) inner,
          decide (number ≠ subnet.network ∧
            (family = .v4 → subnet.length < 31 → number ≠ subnet.last)) = true := by
        intro number member
        rw [List.mem_range'_1] at member
        exact decide_eq_true ⟨by omega, fun _ _ => by omega⟩
      rw [List.range'_1_concat, List.filter_append, List.filter_eq_self.mpr kept,
        List.filter_cons_of_neg]
      · simp
      · intro chosen
        exact (of_decide_eq_true chosen).2 isV4 short (by omega)
  · next silent =>
      apply List.filter_eq_self.mpr
      intro number member
      rw [List.mem_range'_1] at member
      refine decide_eq_true ⟨by omega, fun isV4 short => ?_⟩
      exact absurd (subnet.broadcasts_iff.mpr ⟨isV4, short⟩) silent

theorem candidates_eq : Assignment.candidates subnet = subnet.assignable.take 65536 := by
  rw [assignable_eq_range']
  unfold Assignment.candidates Assignment.probeLimit
  rcases Nat.le_total subnet.successors 65536 with few | many
  · rw [List.take_range'_of_length_le few, Nat.min_eq_right few]
  · rw [List.take_range'_of_length_ge many, Nat.min_eq_left many]

theorem mem_probed {subnet : Subnet family} {address : Address family} :
    address ∈ subnet.probed ↔
      subnet.Contains address ∧ subnet.network < address.value ∧
        address.value ≤ subnet.network + 65536 ∧
        (family = .v4 → subnet.length < 31 → address.value ≠ subnet.last) := by
  have numbers : address ∈ subnet.probed ↔ address.value ∈ Assignment.candidates subnet := by
    unfold probed
    rw [← candidates_eq, List.mem_map]
    constructor
    · rintro ⟨number, candidate, rfl⟩
      rwa [(Assignment.contains_ofNat_of_mem_candidates candidate).1]
    · intro candidate
      exact ⟨address.value, candidate, Address.ofNat_value address⟩
  have positive := subnet.size_pos
  have last : subnet.last = subnet.network + (subnet.size - 1) := rfl
  rw [numbers]
  unfold Assignment.candidates Assignment.probeLimit Contains successors
  rw [List.mem_range'_1]
  split
  · next broadcasts =>
      have room := four_le_size broadcasts.1
      have shape := subnet.broadcasts_iff.mp broadcasts
      constructor
      · intro bounds
        exact ⟨by omega, by omega, by omega, fun _ _ => by omega⟩
      · rintro ⟨inside, after, near, notLast⟩
        have other := notLast shape.1 shape.2
        omega
  · next silent =>
      constructor
      · intro bounds
        refine ⟨by omega, by omega, by omega, fun isV4 short => ?_⟩
        exact absurd (subnet.broadcasts_iff.mpr ⟨isV4, short⟩) silent
      · rintro ⟨inside, after, near, -⟩
        omega

theorem probed_increasing :
    subnet.probed.Pairwise fun one other => one.value < other.value := by
  unfold probed
  rw [← candidates_eq]
  apply List.pairwise_map.mpr
  apply List.Pairwise.imp_of_mem _ (List.pairwise_lt_range' 1)
  intro one other isOne isOther less
  rwa [(Assignment.contains_ofNat_of_mem_candidates isOne).1,
    (Assignment.contains_ofNat_of_mem_candidates isOther).1]

theorem probed_nodup : subnet.probed.Nodup := by
  apply subnet.probed_increasing.imp
  rintro one other less rfl
  exact Nat.lt_irrefl _ less

end Subnet

/-! ## The first free candidate -/

namespace Assignment

variable {family : Family} {subnet : Subnet family} {used : List (Address family)}

theorem find?_congr_of_mem {Value : Type} {values : List Value} {p q : Value → Bool}
    (agree : ∀ value ∈ values, p value = q value) : values.find? p = values.find? q := by
  induction values with
  | nil => rfl
  | cons value values ih =>
      have here := agree value List.mem_cons_self
      have later := ih fun other member => agree other (List.mem_cons_of_mem _ member)
      simp only [List.find?_cons, here, later]

theorem firstFree?_eq_find? (subnet : Subnet family) (used : List (Address family)) :
    firstFree? subnet used = subnet.probed.find? fun address => decide (address ∉ used) := by
  unfold firstFree? Subnet.probed
  rw [List.find?_map, ← subnet.candidates_eq]
  apply congrArg (Option.map Address.ofNat)
  apply find?_congr_of_mem
  intro number candidate
  have value := (contains_ofNat_of_mem_candidates candidate).1
  have taken : (numbers used).contains number = decide (Address.ofNat number ∈ used) := by
    rw [Bool.eq_iff_iff, contains_numbers, decide_eq_true_iff]
    constructor
    · rintro ⟨address, member, rfl⟩
      rwa [Address.ofNat_value]
    · intro member
      exact ⟨_, member, value⟩
  simp [taken]

theorem firstFree?_eq_none : firstFree? subnet used = none ↔
    ∀ address ∈ subnet.probed, address ∈ used := by
  simp [firstFree?_eq_find?]

end Assignment

end NetworkPlugin
