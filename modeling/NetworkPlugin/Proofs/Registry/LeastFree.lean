import NetworkPlugin.Proofs.Registry.Decision

/-!
# The least free address

An address that is left to the network is the least free one of those that are looked at in
the first pool of its family.  The other family has a say in this only as far as the request
may fail on its account.
-/

namespace NetworkPlugin

def Family.other : Family → Family
  | .v4 => .v6
  | .v6 => .v4

namespace Network

variable {network : Network} {family : Family} {pool : Subnet family} {address : Address family}

/-- Of the addresses that are looked at in a pool the least one that is not taken. -/
structure LeastFree (network : Network) (pool : Subnet family) (address : Address family) :
    Prop where
  probed : address ∈ pool.probed
  free : ¬ network.Taken address
  least : ∀ other ∈ pool.probed, ¬ network.Taken other → address.value ≤ other.value

theorem LeastFree.of_firstFree?
    (found : Assignment.firstFree? pool (network.used family) = some address) :
    network.LeastFree pool address := by
  rw [Assignment.firstFree?_eq_find?, List.find?_eq_some_iff_append] at found
  obtain ⟨free, before, after, listed, earlier⟩ := found
  refine ⟨?_, fun taken => of_decide_eq_true free (mem_used.mpr taken), ?_⟩
  · rw [listed]
    exact List.mem_append_right _ List.mem_cons_self
  · -- What comes before it is taken, and what comes after it is greater.
    intro other probed freeToo
    have ordered := pool.probed_increasing
    rw [listed] at probed ordered
    rcases List.mem_append.mp probed with isBefore | isAfter
    · have skipped := earlier other isBefore
      simp only [Bool.not_eq_true', decide_eq_false_iff_not, not_not] at skipped
      exact absurd (mem_used.mp skipped) freeToo
    · rcases List.mem_cons.mp isAfter with rfl | isAfter
      · exact Nat.le_refl _
      · have tail := (List.pairwise_append.mp ordered).2.1
        exact Nat.le_of_lt (List.rel_of_pairwise_cons tail isAfter)

theorem serves_none_iff :
    network.Serves (none : Option (Subnet family)) ↔
      ∀ pool others, network.subnets family = pool :: others →
        ∃ address ∈ pool.probed, ¬ network.Taken address := by
  constructor
  · intro fine pool others listed
    by_contra full
    refine fine _ (.exhausted listed fun address probed => ?_)
    by_contra free
    exact full ⟨address, probed, free⟩
  · rintro room failure (_ | ⟨listed, full⟩)
    obtain ⟨address, probed, free⟩ := room _ _ listed
    exact free (full address probed)

end Network

namespace Registry

variable {registry : Registry} {arguments : EndpointArguments} {requested : Interface}
  {drawn : HardwareAddress} {network : Network} {family : Family}

def Leaves (turn : Turn Registry (Except Failure Response)) (arguments : EndpointArguments)
    (given : Option (Subnet family)) : Prop :=
  turn.answer.isOk = true ∧
    ∃ value, endpoint? turn.state arguments.network arguments.endpoint = some value ∧
      value.address family = given

/-- The endpoint gets the least free address that the first pool of the family has, if there
is such a pool with a free address. -/
structure LeastAssigned (network : Network) (family : Family)
    (turn : Turn Registry (Except Failure Response)) (arguments : EndpointArguments) :
    Prop where
  withoutPool : network.subnets family = [] →
    Leaves turn arguments (none : Option (Subnet family))
  least : ∀ (pool : Subnet family) others, network.subnets family = pool :: others →
    (∃ address ∈ pool.probed, ¬ network.Taken address) →
    ∃ address, network.LeastFree pool address ∧
      Leaves turn arguments (some ⟨address, pool.length, pool.length_le⟩)

def RefusedIfFull (network : Network) (family : Family)
    (turn : Turn Registry (Except Failure Response)) : Prop :=
  ∀ (pool : Subnet family) others, network.subnets family = pool :: others →
    (∀ address ∈ pool.probed, network.Taken address) →
    turn.answer = .error
      ⟨some .noService, "no " ++ family.name ++ " addresses available in " ++ pool.render⟩

theorem Created.leaves {value : Endpoint}
    (created : Created registry drawn arguments requested network value) (family : Family) :
    Leaves (serve registry ⟨drawn, .createEndpoint arguments⟩) arguments
      (value.address family) := by
  refine ⟨?_, value, created.endpoint?_eq, rfl⟩
  rw [created.serve_eq]
  rfl

theorem leaves_of_serves (read : readInterface arguments = .ok requested)
    (stored : registry[arguments.network]? = some network)
    (unused : network.endpoints[arguments.endpoint]? = none)
    (unset : requested.address family = none)
    (own : network.Serves (none : Option (Subnet family)))
    (fine : network.Serves (requested.address family.other)) (drawn : HardwareAddress) :
    ∃ given, Assignment.Assigns (network.subnets family) (network.used family) none given ∧
      Leaves (serve registry ⟨drawn, .createEndpoint arguments⟩) arguments given := by
  rw [← unset] at own
  have both : network.Serves requested.ipv4 ∧ network.Serves requested.ipv6 := by
    cases family with
    | v4 => exact ⟨own, fine⟩
    | v6 => exact ⟨fine, own⟩
  obtain ⟨value, made⟩ := Network.exists_newEndpoint both.1 both.2 drawn
  have created : Created registry drawn arguments requested network value :=
    ⟨read, stored, unused, made⟩
  have assigned := Network.assigns_of_newEndpoint made family
  rw [unset] at assigned
  exact ⟨_, assigned, created.leaves family⟩

theorem leastAssigned_serve (read : readInterface arguments = .ok requested)
    (stored : registry[arguments.network]? = some network)
    (unused : network.endpoints[arguments.endpoint]? = none)
    (unset : requested.address family = none)
    (fine : network.Serves (requested.address family.other)) :
    LeastAssigned network family (serve registry ⟨drawn, .createEndpoint arguments⟩)
      arguments := by
  constructor
  · intro empty
    have own : network.Serves (none : Option (Subnet family)) :=
      Network.serves_none_iff.mpr (by simp [empty])
    obtain ⟨given, assigned, left⟩ := leaves_of_serves read stored unused unset own fine drawn
    cases assigned with
    | picked listed => cases listed.symm.trans empty
    | withoutPools => exact left
  · intro pool others listed room
    have own : network.Serves (none : Option (Subnet family)) := by
      rw [Network.serves_none_iff]
      intro first rest listedToo
      cases listed.symm.trans listedToo
      exact room
    obtain ⟨given, assigned, left⟩ := leaves_of_serves read stored unused unset own fine drawn
    cases assigned with
    | picked listedToo found =>
        cases listed.symm.trans listedToo
        exact ⟨_, .of_firstFree? found, left⟩
    | withoutPools empty => cases listed.symm.trans empty

/-- An address that is left to the network is the least free one, unless the request fails on
account of the other family, and without a free address the request fails. -/
theorem least_free_assigned (read : readInterface arguments = .ok requested)
    (stored : registry[arguments.network]? = some network)
    (unused : network.endpoints[arguments.endpoint]? = none)
    (unset : requested.address family = none) (drawn : HardwareAddress) :
    let turn := serve registry ⟨drawn, .createEndpoint arguments⟩
    (network.Serves (requested.address family.other) →
        LeastAssigned network family turn arguments) ∧
      ((family = .v6 → network.Serves (requested.address family.other)) →
        RefusedIfFull network family turn) ∧
      ∀ failure, network.FailsFor (requested.address family.other) failure →
        (family = .v4 → network.Serves (requested.address family)) →
        turn.answer = .error failure := by
  have decided : DecidedInOrder registry arguments requested
      (serve registry ⟨drawn, .createEndpoint arguments⟩) := decidedInOrder_serve read
  refine ⟨leastAssigned_serve read stored unused unset, ?_, ?_⟩
  · intro fine pool others listed full
    have exhausted := Network.FailsFor.exhausted listed full
    rw [← unset] at exhausted
    cases family with
    | v4 => exact decided.ipv4 network _ stored unused exhausted
    | v6 => exact decided.ipv6 network _ stored unused (fine rfl) exhausted
  · intro failure fails own
    cases family with
    | v4 => exact decided.ipv6 network _ stored unused (own rfl) fails
    | v6 => exact decided.ipv4 network _ stored unused fails

def halfKept : Registry :=
  run ∅ [⟨default, .createNetwork
    { network := "blue", ipv4 := [{ pool := "10.0.0.0/30", gateway := "10.0.0.1/30" }]
      ipv6 := [{ pool := "fd00::/64" }] }⟩]

theorem second_address_assigned :
    Leaves
      (serve halfKept ⟨default, .createEndpoint
        { network := "blue", endpoint := "one", interface := some { ipv6 := "fd00::9/127" } }⟩)
      { network := "blue", endpoint := "one", interface := some { ipv6 := "fd00::9/127" } }
      (some (.ofNumbers .v4 0x0a000002 30)) := by
  have read : readInterface
      { network := "blue", endpoint := "one", interface := some { ipv6 := "fd00::9/127" } } =
      .ok ⟨none, none, some (.ofNumbers .v6 (0xfd00 <<< 112 + 9) 127)⟩ := rfl
  have unset : Interface.address
      ⟨none, none, some (.ofNumbers .v6 (0xfd00 <<< 112 + 9) 127)⟩ .v4 = none := rfl
  have probed : (Address.ofNat 0x0a000002 : Address .v4) ∈
      (Subnet.ofNumbers .v4 0x0a000000 30).probed := Subnet.mem_probed.mpr (by decide)
  have room {network : Network} (used : network.used .v4 = [.ofNat 0x0a000001]) :
      ¬ network.Taken (.ofNat 0x0a000002 : Address .v4) := by
    rw [← Network.mem_used, used]
    decide
  have taken {network : Network} (used : network.used .v4 = [.ofNat 0x0a000001]) :
      network.Taken (.ofNat 0x0a000001 : Address .v4) := by
    rw [← Network.mem_used, used]
    exact List.mem_cons_self
  have stored : halfKept["blue"]? = some _ := rfl
  obtain ⟨assigned, -⟩ := least_free_assigned read stored rfl unset default
  obtain ⟨address, least, left⟩ :=
    (assigned (Network.serves_iff.mpr ⟨_, rfl⟩)).least (.ofNumbers .v4 0x0a000000 30) [] rfl
      ⟨_, probed, room rfl⟩
  have after : 0x0a000000 < address.value := (Subnet.mem_probed.mp least.probed).2.1
  have near : address.value ≤ 0x0a000002 := least.least _ probed (room rfl)
  have other : address ≠ .ofNat 0x0a000001 := by
    rintro rfl
    exact least.free (taken rfl)
  have second : address = .ofNat 0x0a000002 := by
    have values : address.value = 0x0a000001 ∨ address.value = 0x0a000002 := by omega
    rcases values with one | two
    · exact absurd (by rw [← one, Address.ofNat_value]) other
    · rw [← two, Address.ofNat_value]
  rwa [second] at left

/-! ## What else there is to a request -/

/-- A family for which no address is wanted is served as if nothing else was asked for. -/
def ServedAlone (registry : Registry) (arguments : EndpointArguments) (family : Family) : Prop :=
  ∀ network, registry[arguments.network]? = some network →
    network.endpoints[arguments.endpoint]? = none →
    LeastAssigned network family (serve registry ⟨default, .createEndpoint arguments⟩)
        arguments ∧
      RefusedIfFull network family (serve registry ⟨default, .createEndpoint arguments⟩)

theorem not_servedAlone_of_failed {pool : Subnet family} {others : List (Subnet family)}
    {address : Address family} (stored : registry[arguments.network]? = some network)
    (unused : network.endpoints[arguments.endpoint]? = none)
    (listed : network.subnets family = pool :: others) (probed : address ∈ pool.probed)
    (free : address ∉ network.used family)
    (failed : (serve registry ⟨default, .createEndpoint arguments⟩).answer.isOk = false) :
    ¬ ServedAlone registry arguments family := by
  intro alone
  have room : ¬ network.Taken address := fun taken => free (Network.mem_used.mpr taken)
  obtain ⟨assigned, -⟩ := alone network stored unused
  obtain ⟨-, -, succeeded, -⟩ := assigned.least pool others listed ⟨address, probed, room⟩
  rw [failed] at succeeded
  cases succeeded

theorem family_not_served_alone :
    ¬ ServedAlone
        (run ∅ [⟨default, .createNetwork
          { network := "blue", ipv4 := [{ pool := "10.0.0.0/24" }]
            ipv6 := [{ pool := "fd00::/128" }] }⟩])
        { network := "blue", endpoint := "one", interface := some { ipv4 := "10.0.1.1/24" } }
        .v6 ∧
      ¬ ServedAlone (run ∅ [.makeNetwork "blue" "10.0.0.0/24"])
        { network := "blue", endpoint := "one", interface := some { ipv6 := "fd00::1/64" } }
        .v4 ∧
      ¬ ServedAlone (run ∅ [.makeNetwork "blue" "10.0.0.0/24"])
        { network := "blue", endpoint := "one", interface := some { hardware := "zz" } } .v4 := by
  have probed : (Address.ofNat 0x0a000001 : Address .v4) ∈
      (Subnet.ofNumbers .v4 0x0a000000 24).probed := Subnet.mem_probed.mpr (by decide)
  have unused {network : Network} (none : network.used .v4 = []) :
      (Address.ofNat 0x0a000001 : Address .v4) ∉ network.used .v4 := by
    rw [none]
    exact List.not_mem_nil
  refine ⟨?outside, ?withoutPool, ?unreadable⟩
  case outside =>
    intro alone
    obtain ⟨-, refused⟩ := alone _ rfl rfl
    have empty : (Subnet.ofNumbers .v6 (0xfd00 <<< 112) 128).probed = [] := by decide
    have answer := refused (.ofNumbers .v6 (0xfd00 <<< 112) 128) [] rfl fun address probed =>
      absurd (empty ▸ probed) List.not_mem_nil
    have kind := congrArg (Except.mapError Failure.kind) answer
    cases kind
  case withoutPool =>
    exact not_servedAlone_of_failed rfl rfl rfl probed (unused rfl) rfl
  case unreadable =>
    exact not_servedAlone_of_failed rfl rfl rfl probed (unused rfl) rfl

end Registry

end NetworkPlugin
