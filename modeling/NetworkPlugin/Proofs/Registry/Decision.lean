import NetworkPlugin.Proofs.Registry.Candidates
import NetworkPlugin.Proofs.Registry.Creation

/-!
# Decisions on new endpoints

What a request for an endpoint comes to, in the order in which its reasons to fail are looked
at: the names, the address of IPv4, the address of IPv6.  Whether a family fails is said
without the search for an address, from the pools and from the addresses that are taken; it
depends on what is wanted of this family and on nothing else that is asked for.
-/

namespace NetworkPlugin

/-! ## Addresses kept back -/

/-- The network address of a subnet and, for IPv4, its broadcast address, unless the subnet
is too small to spare them. -/
def Subnet.KeepsBack {family : Family} (subnet : Subnet family) (address : Address family) :
    Prop :=
  subnet.length < family.pointToPoint ∧
    (address.value = subnet.network ∨ family = .v4 ∧ address.value = subnet.last)

theorem Subnet.isHost_iff {family : Family} {subnet : Subnet family} {address : Address family} :
    subnet.IsHost address ↔ ¬ subnet.KeepsBack address := by
  unfold IsHost KeepsBack
  rw [hasInterior_iff]
  cases family <;> simp [Family.hasBroadcast]

theorem Assignment.Denies.assign_eq {family : Family} {pools : List (Subnet family)}
    {used : List (Address family)} {wanted : Option (Subnet family)} {refusal : Refusal}
    (denied : Denies pools used wanted refusal) : assign pools used wanted = .error refusal := by
  cases denied with
  | outsidePools outside => simp [assign, checkRequested, outside, Except.map]
  | notAHost first keptBack => simp [assign, checkRequested, first, keptBack, Except.map]
  | addressInUse first host taken =>
      simp [assign, checkRequested, first, host, taken, Except.map]
  | poolExhausted listed full => simp [assign, pickFree, listed, full]

namespace Network

variable {network : Network} {family : Family} {address : Address family}
  {given : Subnet family} {wanted : Option (Subnet family)}

/-! ## Where an address is -/

def Outside (network : Network) (address : Address family) : Prop :=
  ∀ pool ∈ network.subnets family, ¬ pool.Contains address

def FirstAround (network : Network) (address : Address family) (pool : Subnet family) : Prop :=
  ∃ before after, network.subnets family = before ++ pool :: after ∧ pool.Contains address ∧
    ∀ earlier ∈ before, ¬ earlier.Contains address

/-- The address is a gateway or an auxiliary address of a pool in either list, or an endpoint
holds it. -/
def Taken (network : Network) (address : Address family) : Prop :=
  (∃ pool ∈ network.ipv4 ++ network.ipv6,
    (∃ gateway : Subnet family, pool.gateway = some ⟨family, gateway⟩ ∧
      gateway.address = address) ∨
    ∃ name : String, pool.auxiliary[name]? = some ⟨family, address⟩) ∨
  ∃ (name : String) (endpoint : Endpoint), network.endpoints[name]? = some endpoint ∧
    endpoint.held family = some address

theorem mem_used : address ∈ network.used family ↔ network.Taken address := by
  simp only [used, List.mem_append, mem_held, Taken, mem_kept, Pool.mem_kept]

theorem find?_eq_none_iff :
    (network.subnets family).find? (fun pool => decide (pool.Contains address)) = none ↔
      network.Outside address := by
  simp [Outside]

theorem find?_eq_some_iff {pool : Subnet family} :
    (network.subnets family).find? (fun pool => decide (pool.Contains address)) = some pool ↔
      network.FirstAround address pool := by
  rw [List.find?_eq_some_iff_append, decide_eq_true_iff]
  simp only [Bool.not_eq_true', decide_eq_false_iff_not]
  constructor
  · rintro ⟨inside, before, after, listed, earlier⟩
    exact ⟨before, after, listed, inside, earlier⟩
  · rintro ⟨before, after, listed, inside, earlier⟩
    exact ⟨inside, before, after, listed, earlier⟩

theorem outside_or_firstAround (network : Network) (address : Address family) :
    network.Outside address ∨ ∃ pool, network.FirstAround address pool := by
  cases found : (network.subnets family).find? fun pool => decide (pool.Contains address) with
  | none => exact .inl (find?_eq_none_iff.mp found)
  | some pool => exact .inr ⟨pool, find?_eq_some_iff.mp found⟩

/-! ## Failures of a family -/

/-- What is wrong with an address that is requested, the first thing that is. -/
inductive Objects (network : Network) (given : Subnet family) : String → Prop
  | outside (outside : network.Outside given.address) :
      Objects network given
        (family.name ++ " address " ++ given.render ++ " is not within any pool of the network")
  | keptBack {pool} (first : network.FirstAround given.address pool)
      (keptBack : pool.KeepsBack given.address) :
      Objects network given
        (family.name ++ " address " ++ given.address.render ++ " is not a host address of " ++
          pool.render)
  | inUse {pool} (first : network.FirstAround given.address pool)
      (host : ¬ pool.KeepsBack given.address) (taken : network.Taken given.address) :
      Objects network given
        (family.name ++ " address " ++ given.address.render ++ " is already in use")

/-- How a request fails on account of one family, of which it wants an address or leaves the
choice to the network. -/
inductive FailsFor (network : Network) : Option (Subnet family) → Failure → Prop
  | refused {given message} (objects : network.Objects given message) :
      FailsFor network (some given) ⟨some .badRequest, message⟩
  | exhausted {pool others} (first : network.subnets family = pool :: others)
      (full : ∀ address ∈ pool.probed, network.Taken address) :
      FailsFor network none
        ⟨some .noService, "no " ++ family.name ++ " addresses available in " ++ pool.render⟩

def Serves (network : Network) (wanted : Option (Subnet family)) : Prop :=
  ∀ failure, ¬ network.FailsFor wanted failure

theorem exists_failsFor_iff :
    (∃ failure, network.FailsFor (some given) failure) ↔
      network.Outside given.address ∨
      (∃ pool, network.FirstAround given.address pool ∧ pool.KeepsBack given.address) ∨
      network.Taken given.address := by
  constructor
  · rintro ⟨_, ⟨objects⟩⟩
    cases objects with
    | outside outside => exact .inl outside
    | keptBack first keptBack => exact .inr (.inl ⟨_, first, keptBack⟩)
    | inUse first host taken => exact .inr (.inr taken)
  · rintro (outside | ⟨pool, first, keptBack⟩ | taken)
    · exact ⟨_, .refused (.outside outside)⟩
    · exact ⟨_, .refused (.keptBack first keptBack)⟩
    · -- An address that is taken may have an earlier fault as well.
      obtain outside | ⟨pool, first⟩ := network.outside_or_firstAround given.address
      · exact ⟨_, .refused (.outside outside)⟩
      · by_cases keptBack : pool.KeepsBack given.address
        · exact ⟨_, .refused (.keptBack first keptBack)⟩
        · exact ⟨_, .refused (.inUse first keptBack taken)⟩

theorem failsFor_of_denies {refusal : Refusal}
    (denied : Assignment.Denies (network.subnets family) (network.used family) wanted refusal) :
    network.FailsFor wanted refusal.failure := by
  cases denied with
  | outsidePools outside => exact .refused (.outside (find?_eq_none_iff.mp outside))
  | notAHost first keptBack =>
      rw [Subnet.isHost_iff, not_not] at keptBack
      exact .refused (.keptBack (find?_eq_some_iff.mp first) keptBack)
  | addressInUse first host taken =>
      exact .refused (.inUse (find?_eq_some_iff.mp first) (Subnet.isHost_iff.mp host)
        (mem_used.mp taken))
  | poolExhausted listed full =>
      refine .exhausted listed fun address probed => ?_
      exact mem_used.mp (Assignment.firstFree?_eq_none.mp full address probed)

theorem FailsFor.exists_denies {failure : Failure} (fails : network.FailsFor wanted failure) :
    ∃ refusal, Assignment.Denies (network.subnets family) (network.used family) wanted refusal ∧
      refusal.failure = failure := by
  cases fails with
  | refused objects =>
      cases objects with
      | outside outside => exact ⟨_, .outsidePools (find?_eq_none_iff.mpr outside), rfl⟩
      | keptBack first keptBack =>
          have unfit := not_not.mpr keptBack
          rw [← Subnet.isHost_iff] at unfit
          exact ⟨_, .notAHost (find?_eq_some_iff.mpr first) unfit, rfl⟩
      | inUse first host taken =>
          have fit := Subnet.isHost_iff.mpr host
          exact ⟨_, .addressInUse (find?_eq_some_iff.mpr first) fit (mem_used.mpr taken), rfl⟩
  | exhausted first full =>
      refine ⟨_, .poolExhausted first (Assignment.firstFree?_eq_none.mpr ?_), rfl⟩
      exact fun address probed => mem_used.mpr (full address probed)

theorem FailsFor.assign_eq {failure : Failure} (fails : network.FailsFor wanted failure) :
    ∃ refusal, Assignment.assign (network.subnets family) (network.used family) wanted =
      .error refusal ∧ refusal.failure = failure := by
  obtain ⟨refusal, denied, told⟩ := fails.exists_denies
  exact ⟨refusal, denied.assign_eq, told⟩

theorem serves_iff :
    network.Serves wanted ↔
      ∃ result, Assignment.assign (network.subnets family) (network.used family) wanted =
        .ok result := by
  constructor
  · intro fine
    obtain ⟨result, given, -⟩ | ⟨refusal, -, denied⟩ :=
      Assignment.assign_cases (network.subnets family) (network.used family) wanted
    · exact ⟨result, given⟩
    · exact absurd (failsFor_of_denies denied) (fine _)
  · rintro ⟨result, given⟩ failure fails
    obtain ⟨refusal, denied, -⟩ := fails.assign_eq
    cases given.symm.trans denied

/-! ## New endpoints -/

section

variable {requested : Interface} {drawn : HardwareAddress} {failure : Failure}

theorem newEndpoint_of_failsFor_v4 (fails : network.FailsFor requested.ipv4 failure)
    (drawn : HardwareAddress) :
    ∃ refusal, network.newEndpoint requested drawn = .error refusal ∧
      refusal.failure = failure := by
  obtain ⟨refusal, denied, told⟩ := fails.assign_eq
  exact ⟨refusal, Except.bind_eq_error.mpr (.inl denied), told⟩

theorem newEndpoint_of_failsFor_v6 (fine : network.Serves requested.ipv4)
    (fails : network.FailsFor requested.ipv6 failure) (drawn : HardwareAddress) :
    ∃ refusal, network.newEndpoint requested drawn = .error refusal ∧
      refusal.failure = failure := by
  obtain ⟨ipv4, assigned⟩ := serves_iff.mp fine
  obtain ⟨refusal, denied, told⟩ := fails.assign_eq
  refine ⟨refusal, Except.bind_eq_error.mpr (.inr ⟨ipv4, assigned, ?_⟩), told⟩
  exact Except.bind_eq_error.mpr (.inl denied)

theorem exists_newEndpoint (fine : network.Serves requested.ipv4)
    (fineV6 : network.Serves requested.ipv6) (drawn : HardwareAddress) :
    ∃ value, network.newEndpoint requested drawn = .ok value := by
  obtain ⟨ipv4, assigned⟩ := serves_iff.mp fine
  obtain ⟨ipv6, assignedV6⟩ := serves_iff.mp fineV6
  exact ⟨_, newEndpoint_eq_ok.mpr ⟨ipv4, ipv6, assigned, assignedV6, rfl⟩⟩

theorem address_of_newEndpoint {value : Endpoint}
    (made : network.newEndpoint requested drawn = .ok value) (family : Family) :
    Assignment.assign (network.subnets family) (network.used family) (requested.address family) =
      .ok (value.address family) := by
  obtain ⟨ipv4, ipv6, assigned, assignedV6, rfl⟩ := newEndpoint_eq_ok.mp made
  cases family with
  | v4 => exact assigned
  | v6 => exact assignedV6

end

end Network

namespace Registry

/-! ## Requests for endpoints -/

/-- What a request for an endpoint comes to, by the first of its reasons to fail. -/
structure DecidedInOrder (registry : Registry) (arguments : EndpointArguments)
    (requested : Interface) (turn : Turn Registry (Except Failure Response)) : Prop where
  unknown : registry[arguments.network]? = none →
    turn.answer = .error ⟨some .notFound, "network " ++ arguments.network ++ " not found"⟩
  present : ∀ network value, registry[arguments.network]? = some network →
    network.endpoints[arguments.endpoint]? = some value →
    turn.answer = .error ⟨some .forbidden,
      "endpoint " ++ arguments.endpoint ++ " already exists in network " ++ arguments.network⟩
  ipv4 : ∀ network failure, registry[arguments.network]? = some network →
    network.endpoints[arguments.endpoint]? = none →
    network.FailsFor requested.ipv4 failure → turn.answer = .error failure
  ipv6 : ∀ network failure, registry[arguments.network]? = some network →
    network.endpoints[arguments.endpoint]? = none → network.Serves requested.ipv4 →
    network.FailsFor requested.ipv6 failure → turn.answer = .error failure
  success : ∀ network, registry[arguments.network]? = some network →
    network.endpoints[arguments.endpoint]? = none → network.Serves requested.ipv4 →
    network.Serves requested.ipv6 →
    ∃ value, turn.answer = .ok (.endpoint ⟨some (value.assignedPart requested).toText⟩) ∧
      endpoint? turn.state arguments.network arguments.endpoint = some value ∧
      ∀ family given, requested.address family = some given → value.address family = some given

section

variable {registry : Registry} {arguments : EndpointArguments} {requested : Interface}
  {drawn : HardwareAddress}

theorem answer_of_networkUnknown (read : readInterface arguments = .ok requested)
    (absent : registry[arguments.network]? = none) :
    (serve registry ⟨drawn, .createEndpoint arguments⟩).answer =
      .error (Refusal.networkUnknown arguments.network).failure := by
  rw [@serve_of_refuses registry ⟨drawn, .createEndpoint arguments⟩ _ _ _
    (Asks.createEndpoint read).plan_eq (.networkUnknown rfl absent)]
  rfl

theorem answer_of_endpointExists (read : readInterface arguments = .ok requested)
    {network : Network} {value : Endpoint} (stored : registry[arguments.network]? = some network)
    (present : network.endpoints[arguments.endpoint]? = some value) :
    (serve registry ⟨drawn, .createEndpoint arguments⟩).answer =
      .error (Refusal.endpointExists arguments.network arguments.endpoint).failure := by
  rw [@serve_of_refuses registry ⟨drawn, .createEndpoint arguments⟩ _ _ _
    (Asks.createEndpoint read).plan_eq (.endpointExists stored present)]

theorem Created.address_eq {owner : Network} {value : Endpoint}
    (created : Created registry drawn arguments requested owner value) {family : Family}
    {given : Subnet family} (asked : requested.address family = some given) :
    value.address family = some given := by
  have assigned := Network.assigns_of_newEndpoint created.made family
  rw [asked] at assigned
  generalize value.address family = got at assigned
  cases assigned with
  | asRequested => rfl

theorem Created.endpoint?_eq {owner : Network} {value : Endpoint}
    (created : Created registry drawn arguments requested owner value) :
    endpoint? (serve registry ⟨drawn, .createEndpoint arguments⟩).state arguments.network
      arguments.endpoint = some value := by
  rw [created.serve_eq]
  exact (endpoint?_putEndpoint created.stored arguments.endpoint value
    (arguments.network, arguments.endpoint)).trans (if_pos rfl)

theorem decidedInOrder_serve (read : readInterface arguments = .ok requested) :
    DecidedInOrder registry arguments requested
      (serve registry ⟨drawn, .createEndpoint arguments⟩) := by
  have unassigned {network : Network} {refusal : Refusal}
      (stored : registry[arguments.network]? = some network)
      (absent : network.endpoints[arguments.endpoint]? = none)
      (failed : network.newEndpoint requested drawn = .error refusal) :
      (serve registry ⟨drawn, .createEndpoint arguments⟩).answer = .error refusal.failure := by
    have found : Unassigned registry drawn arguments requested network refusal :=
      ⟨read, stored, absent, failed⟩
    rw [found.serve_eq]
  refine ⟨?unknown, ?present, ?ipv4, ?ipv6, ?success⟩
  case unknown => exact answer_of_networkUnknown read
  case present => exact fun network value => answer_of_endpointExists read
  case ipv4 =>
    intro network failure stored absent fails
    obtain ⟨refusal, failed, rfl⟩ := Network.newEndpoint_of_failsFor_v4 fails drawn
    exact unassigned stored absent failed
  case ipv6 =>
    intro network failure stored absent fine fails
    obtain ⟨refusal, failed, rfl⟩ := Network.newEndpoint_of_failsFor_v6 fine fails drawn
    exact unassigned stored absent failed
  case success =>
    intro network stored absent fine fineV6
    obtain ⟨value, made⟩ := Network.exists_newEndpoint fine fineV6 drawn
    have created : Created registry drawn arguments requested network value :=
      ⟨read, stored, absent, made⟩
    refine ⟨value, ?_, created.endpoint?_eq, fun family given => created.address_eq⟩
    rw [created.serve_eq]

theorem Created.address_eq_of_same {owner : Network} {value another : Endpoint}
    (created : Created registry drawn arguments requested owner value)
    {again : HardwareAddress} {wish : EndpointArguments} {wanted : Interface}
    (createdToo : Created registry again wish wanted owner another) {family : Family}
    (same : wanted.address family = requested.address family) :
    another.address family = value.address family := by
  have assigned := Network.address_of_newEndpoint created.made family
  have assignedToo := Network.address_of_newEndpoint createdToo.made family
  rw [same, assigned] at assignedToo
  exact (Except.ok.inj assignedToo).symm

theorem exists_created_of_isOk {owner : Network} (read : readInterface arguments = .ok requested)
    (stored : registry[arguments.network]? = some owner)
    (succeeded : (serve registry ⟨drawn, .createEndpoint arguments⟩).answer.isOk = true) :
    ∃ value, Created registry drawn arguments requested owner value := by
  obtain ⟨interface, found, value, created⟩ := created_of_isOk succeeded
  cases read.symm.trans created.read
  cases stored.symm.trans created.stored
  exact ⟨value, created⟩

/-- Requests for endpoints are decided in a fixed order.  A requested address is refused for
one of three reasons, and a family is served no matter what is wanted of the other one. -/
theorem endpoints_decided_in_order (registry : Registry) (drawn : HardwareAddress)
    (read : readInterface arguments = .ok requested) :
    DecidedInOrder registry arguments requested
        (serve registry ⟨drawn, .createEndpoint arguments⟩) ∧
      (∀ (network : Network) (family : Family) (given : Subnet family),
        (∃ message, network.FailsFor (some given) ⟨some .badRequest, message⟩) ↔
          network.Outside given.address ∨
          (∃ pool, network.FirstAround given.address pool ∧ pool.KeepsBack given.address) ∨
          network.Taken given.address) ∧
      ∀ (again : HardwareAddress) (wish : EndpointArguments) (wanted : Interface)
        (family : Family), readInterface wish = .ok wanted → wish.network = arguments.network →
        wanted.address family = requested.address family →
        (serve registry ⟨drawn, .createEndpoint arguments⟩).answer.isOk = true →
        (serve registry ⟨again, .createEndpoint wish⟩).answer.isOk = true →
        ∃ value another,
          endpoint? (serve registry ⟨drawn, .createEndpoint arguments⟩).state
            arguments.network arguments.endpoint = some value ∧
          endpoint? (serve registry ⟨again, .createEndpoint wish⟩).state
            wish.network wish.endpoint = some another ∧
          another.address family = value.address family := by
  refine ⟨decidedInOrder_serve read, fun network family given => ?_, ?_⟩
  · rw [← Network.exists_failsFor_iff]
    constructor
    · rintro ⟨message, fails⟩
      exact ⟨_, fails⟩
    · rintro ⟨_, ⟨objects⟩⟩
      exact ⟨_, .refused objects⟩
  · intro again wish wanted family readToo here same succeeded succeededToo
    obtain ⟨_, owner, value, created⟩ := created_of_isOk succeeded
    cases read.symm.trans created.read
    obtain ⟨another, createdToo⟩ :=
      exists_created_of_isOk readToo (here ▸ created.stored) succeededToo
    exact ⟨value, another, created.endpoint?_eq, createdToo.endpoint?_eq,
      created.address_eq_of_same createdToo same⟩

end

/-- The first of two pools decides about its own broadcast address, before it is seen that
the other family has no pool. -/
theorem broadcast_address_decided_first :
    (serve (run ∅ [⟨default, .createNetwork
        { network := "blue"
          ipv4 := [{ pool := "10.0.0.0/24" }, { pool := "10.0.0.0/8" }] }⟩])
      ⟨default, .createEndpoint
        { network := "blue", endpoint := "one"
          interface := some { ipv4 := "10.0.0.255/8", ipv6 := "fd00::1/64" } }⟩).answer =
      .error ⟨some .badRequest,
        "IPv4 address 10.0.0.255 is not a host address of 10.0.0.0/24"⟩ := by
  have read : readInterface
      { network := "blue", endpoint := "one"
        interface := some { ipv4 := "10.0.0.255/8", ipv6 := "fd00::1/64" } } =
      .ok ⟨none, some (.ofNumbers .v4 0x0a0000ff 8),
        some (.ofNumbers .v6 (0xfd00 <<< 112 + 1) 64)⟩ := rfl
  have inside : (Subnet.ofNumbers .v4 0x0a000000 24).Contains (.ofNat 0x0a0000ff) := by decide
  have keptBack : (Subnet.ofNumbers .v4 0x0a000000 24).KeepsBack (.ofNat 0x0a0000ff) :=
    ⟨by decide, .inr ⟨rfl, rfl⟩⟩
  have fails {network : Network} (listed : network.subnets .v4 =
      [.ofNumbers .v4 0x0a000000 24, .ofNumbers .v4 0x0a000000 8]) :
      network.FailsFor (some (.ofNumbers .v4 0x0a0000ff 8)) _ :=
    .refused (.keptBack ⟨[], _, listed, inside, fun _ none => absurd none List.not_mem_nil⟩
      keptBack)
  exact (endpoints_decided_in_order _ default read).1.ipv4 _ _ rfl rfl (fails rfl)

end Registry

end NetworkPlugin
