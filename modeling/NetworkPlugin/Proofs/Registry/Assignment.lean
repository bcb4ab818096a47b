import NetworkPlugin.Proofs.Except
import NetworkPlugin.Registry.Basic

/-!
# What assignments give and deny

Two relations say which address an endpoint gets and why it gets none.  Whichever way
an address is chosen, it is a free host address of the first pool that contains it.
-/

namespace NetworkPlugin

/-! ## Subnets -/

namespace Subnet

variable {family : Family} (subnet : Subnet family)

theorem size_mul_eq : subnet.size * (1 <<< subnet.length) = family.size := by
  rw [size, Family.size, Nat.one_shiftLeft, Nat.one_shiftLeft, Nat.one_shiftLeft, ← Nat.pow_add,
    Nat.sub_add_cancel subnet.length_le]

theorem last_lt_size : subnet.last < family.size := by
  have positive := subnet.size_pos
  have quotient : subnet.address.value / subnet.size + 1 ≤ 1 <<< subnet.length := by
    rw [Nat.succ_le_iff, Nat.div_lt_iff_lt_mul positive, Nat.mul_comm, size_mul_eq]
    exact subnet.address.value_lt
  have blocks : (subnet.address.value / subnet.size + 1) * subnet.size ≤ family.size := by
    rw [← subnet.size_mul_eq, Nat.mul_comm subnet.size]
    exact Nat.mul_le_mul_right _ quotient
  rw [Nat.add_mul, Nat.one_mul] at blocks
  simp only [last, network]
  omega

end Subnet

namespace Assignment

variable {family : Family} {pools : List (Subnet family)} {used : List (Address family)}

/-! ## Candidates -/

theorem mem_candidates {subnet : Subnet family} {number : Nat}
    (candidate : number ∈ candidates subnet) :
    subnet.network < number ∧ number ≤ subnet.network + subnet.successors := by
  rw [candidates, List.mem_range'_1] at candidate
  omega

theorem contains_ofNat_of_mem_candidates {subnet : Subnet family} {number : Nat}
    (candidate : number ∈ candidates subnet) :
    (Address.ofNat number : Address family).value = number ∧
      subnet.Contains (Address.ofNat number) := by
  have bounds := mem_candidates candidate
  have below := subnet.last_lt_size
  have within : number ≤ subnet.last := by
    simp only [Subnet.last, Subnet.successors] at *
    split at bounds <;> omega
  have value : (Address.ofNat number : Address family).value = number :=
    Address.value_ofNat (by omega)
  refine ⟨value, ?_⟩
  simp only [Subnet.Contains, value]
  omega

theorem isHost_ofNat_of_mem_candidates {subnet : Subnet family} {number : Nat}
    (candidate : number ∈ candidates subnet) : subnet.IsHost (Address.ofNat number) := by
  have bounds := mem_candidates candidate
  intro interior
  rw [(contains_ofNat_of_mem_candidates candidate).1]
  refine ⟨by omega, fun broadcasts => ?_⟩
  rw [Subnet.successors, if_pos ⟨interior, broadcasts⟩] at bounds
  simp only [Subnet.last]
  omega

theorem contains_numbers {number : Nat} :
    (numbers used).contains number = true ↔ ∃ address ∈ used, address.value = number := by
  simp [numbers]

theorem firstFree?_eq_some {subnet : Subnet family} {address : Address family}
    (found : firstFree? subnet used = some address) :
    subnet.Contains address ∧ subnet.IsHost address ∧ address ∉ used := by
  obtain ⟨number, first, rfl⟩ := Option.map_eq_some_iff.mp found
  have candidate := List.mem_of_find?_eq_some first
  have free := List.find?_some first
  obtain ⟨value, contained⟩ := contains_ofNat_of_mem_candidates candidate
  refine ⟨contained, isHost_ofNat_of_mem_candidates candidate, fun member => ?_⟩
  have taken : (numbers used).contains number = true :=
    contains_numbers.mpr ⟨_, member, value⟩
  rw [taken] at free
  cases free

/-! ## Given and denied addresses -/

inductive Assigns (pools : List (Subnet family)) (used : List (Address family)) :
    Option (Subnet family) → Option (Subnet family) → Prop
  | asRequested {requested pool}
      (first : pools.find? (fun pool => decide (pool.Contains requested.address)) = some pool)
      (host : pool.IsHost requested.address) (free : requested.address ∉ used) :
      Assigns pools used (some requested) (some requested)
  | picked {pool others address} (listed : pools = pool :: others)
      (found : firstFree? pool used = some address) :
      Assigns pools used none (some ⟨address, pool.length, pool.length_le⟩)
  | withoutPools (empty : pools = []) : Assigns pools used none none

inductive Denies (pools : List (Subnet family)) (used : List (Address family)) :
    Option (Subnet family) → Refusal → Prop
  | outsidePools {requested}
      (outside : pools.find? (fun pool => decide (pool.Contains requested.address)) = none) :
      Denies pools used (some requested) (.outsidePools family requested)
  | notAHost {requested pool}
      (first : pools.find? (fun pool => decide (pool.Contains requested.address)) = some pool)
      (keptBack : ¬ pool.IsHost requested.address) :
      Denies pools used (some requested) (.notAHost family requested.address pool)
  | addressInUse {requested pool}
      (first : pools.find? (fun pool => decide (pool.Contains requested.address)) = some pool)
      (host : pool.IsHost requested.address) (taken : requested.address ∈ used) :
      Denies pools used (some requested) (.addressInUse family requested.address)
  | poolExhausted {pool others} (listed : pools = pool :: others)
      (full : firstFree? pool used = none) :
      Denies pools used none (.poolExhausted family pool)

theorem assign_cases (pools : List (Subnet family)) (used : List (Address family))
    (requested : Option (Subnet family)) :
    (∃ result, assign pools used requested = .ok result ∧ Assigns pools used requested result) ∨
      ∃ refusal, assign pools used requested = .error refusal ∧
        Denies pools used requested refusal := by
  cases requested with
  | some requested =>
      simp only [assign, checkRequested]
      split
      · next outside => exact .inr ⟨_, rfl, .outsidePools outside⟩
      · next pool first =>
          by_cases host : pool.IsHost requested.address
          · by_cases taken : requested.address ∈ used
            · exact .inr ⟨_, by simp [host, taken, Except.map], .addressInUse first host taken⟩
            · exact .inl ⟨_, by simp [host, taken, Except.map], .asRequested first host taken⟩
          · exact .inr ⟨_, by simp [host, Except.map], .notAHost first host⟩
  | none =>
      cases pools with
      | nil => exact .inl ⟨_, rfl, .withoutPools rfl⟩
      | cons pool others =>
          cases found : firstFree? pool used with
          | none => exact .inr ⟨_, by simp [assign, pickFree, found], .poolExhausted rfl found⟩
          | some address => exact .inl ⟨_, by simp [assign, pickFree, found], .picked rfl found⟩

theorem assigns_of_ok {requested result : Option (Subnet family)}
    (done : assign pools used requested = .ok result) : Assigns pools used requested result := by
  obtain ⟨other, given, assigns⟩ | ⟨refusal, failed, -⟩ := assign_cases pools used requested
  · cases given.symm.trans done
    exact assigns
  · cases failed.symm.trans done

theorem denies_of_error {requested : Option (Subnet family)} {refusal : Refusal}
    (failed : assign pools used requested = .error refusal) :
    Denies pools used requested refusal := by
  obtain ⟨result, given, -⟩ | ⟨other, denied, denies⟩ := assign_cases pools used requested
  · cases given.symm.trans failed
  · cases denied.symm.trans failed
    exact denies

theorem Denies.kind {requested : Option (Subnet family)} {refusal : Refusal}
    (denied : Denies pools used requested refusal) :
    refusal.kind = .badRequest ∨ refusal.kind = .noService := by
  cases denied with
  | outsidePools | notAHost | addressInUse => exact .inl rfl
  | poolExhausted => exact .inr rfl

/-! ## Assigned addresses -/

theorem Assigns.isSome_iff {requested result : Option (Subnet family)}
    (assigned : Assigns pools used requested result) : result.isSome = true ↔ pools ≠ [] := by
  cases assigned with
  | asRequested first host free =>
      have member := List.mem_of_find?_eq_some first
      simp [List.ne_nil_of_mem member]
  | picked listed found => simp [listed]
  | withoutPools empty => simp [empty]

theorem Assigns.free {requested : Option (Subnet family)} {given : Subnet family}
    (assigned : Assigns pools used requested (some given)) : given.address ∉ used := by
  cases assigned with
  | asRequested first host free => exact free
  | picked listed found => exact (firstFree?_eq_some found).2.2

/-- The two ways of choosing an address agree on where it has to be. -/
theorem Assigns.placed {requested : Option (Subnet family)} {given : Subnet family}
    (assigned : Assigns pools used requested (some given)) :
    ∃ pool, pools.find? (fun pool => decide (pool.Contains given.address)) = some pool ∧
      pool.IsHost given.address := by
  cases assigned with
  | asRequested first host free => exact ⟨_, first, host⟩
  | picked listed found =>
      obtain ⟨contained, host, -⟩ := firstFree?_eq_some found
      refine ⟨_, ?_, host⟩
      rw [listed]
      exact List.find?_cons_of_pos (decide_eq_true contained)

end Assignment

/-! ## New endpoints -/

namespace Network

variable {network : Network} {requested : Interface} {drawn : HardwareAddress}

theorem newEndpoint_eq_ok {value : Endpoint} :
    network.newEndpoint requested drawn = .ok value ↔
      ∃ ipv4 ipv6,
        Assignment.assign (network.subnets .v4) (network.used .v4) requested.ipv4 = .ok ipv4 ∧
        Assignment.assign (network.subnets .v6) (network.used .v6) requested.ipv6 = .ok ipv6 ∧
        value = { hardware := requested.hardware.getD drawn.localUnicast, ipv4, ipv6 } := by
  simp only [newEndpoint, Except.bind_eq_ok]
  constructor
  · rintro ⟨ipv4, first, ipv6, second, made⟩
    cases made
    exact ⟨ipv4, ipv6, first, second, rfl⟩
  · rintro ⟨ipv4, ipv6, first, second, rfl⟩
    exact ⟨ipv4, first, ipv6, second, rfl⟩

theorem newEndpoint_eq_error {refusal : Refusal}
    (failed : network.newEndpoint requested drawn = .error refusal) :
    Assignment.Denies (network.subnets .v4) (network.used .v4) requested.ipv4 refusal ∨
      Assignment.Denies (network.subnets .v6) (network.used .v6) requested.ipv6 refusal := by
  simp only [newEndpoint, Except.bind_eq_error] at failed
  rcases failed with first | ⟨ipv4, -, second | ⟨ipv6, -, failed⟩⟩
  · exact .inl (Assignment.denies_of_error first)
  · exact .inr (Assignment.denies_of_error second)
  · cases failed

end Network

end NetworkPlugin
