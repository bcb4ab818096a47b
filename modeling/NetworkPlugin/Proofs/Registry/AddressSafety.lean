import NetworkPlugin.Proofs.Registry.Assignment
import NetworkPlugin.Proofs.Session

/-!
# Safety of addresses

No session makes two endpoints of a network share an address, gives an endpoint an
address that a pool keeps to itself, or gives it one outside the pools.  A new endpoint
is safe because its addresses were free when they were assigned; all other changes of a
network take addresses away or leave them as they are.
-/

namespace NetworkPlugin

/-- The prefix length from which on all addresses of a subnet are hosts. -/
def Family.pointToPoint : Family → Nat
  | v4 => 31
  | v6 => 127

theorem Subnet.hasInterior_iff {family : Family} (subnet : Subnet family) :
    subnet.HasInterior ↔ subnet.length < family.pointToPoint := by
  cases family <;> simp only [HasInterior, Family.width, Family.pointToPoint] <;> omega

/-! ## What networks hold -/

theorem Pool.mem_kept {pool : Pool} {family : Family} {address : Address family} :
    address ∈ pool.kept family ↔
      (∃ gateway : Subnet family, pool.gateway = some ⟨family, gateway⟩ ∧
        gateway.address = address) ∨
      ∃ name : String, pool.auxiliary[name]? = some ⟨family, address⟩ := by
  simp only [kept, List.mem_append, Option.mem_toList, Option.bind_eq_some_iff,
    Option.map_eq_some_iff, List.mem_filterMap, Dictionary.mem_values,
    Family.select?_eq_some_iff]
  constructor
  · rintro (⟨_, set, gateway, rfl, same⟩ | ⟨_, ⟨name, listed⟩, rfl⟩)
    · exact .inl ⟨gateway, set, same⟩
    · exact .inr ⟨name, listed⟩
  · rintro (⟨gateway, set, same⟩ | ⟨name, listed⟩)
    · exact .inl ⟨_, set, gateway, rfl, same⟩
    · exact .inr ⟨_, ⟨name, listed⟩, rfl⟩

theorem Endpoint.hardware_report (endpoint : Endpoint) (owner name : String) :
    (endpoint.report owner name)["mac_address"]? = some endpoint.hardware.render :=
  Dictionary.getElem?_ofList_filterMap (by simp) (by simp)

namespace Network

variable {network : Network}

theorem mem_kept {family : Family} {address : Address family} :
    address ∈ network.kept family ↔
      ∃ pool ∈ network.ipv4 ++ network.ipv6, address ∈ pool.kept family := by
  simp only [kept, List.mem_flatMap]

theorem mem_held {family : Family} {address : Address family} :
    address ∈ network.held family ↔
      ∃ (name : String) (endpoint : Endpoint), network.endpoints[name]? = some endpoint ∧
        endpoint.held family = some address := by
  simp only [held, List.mem_filterMap, Dictionary.mem_values]
  constructor
  · rintro ⟨endpoint, ⟨name, stored⟩, holds⟩
    exact ⟨name, endpoint, stored, holds⟩
  · rintro ⟨name, endpoint, stored, holds⟩
    exact ⟨endpoint, ⟨name, stored⟩, holds⟩

theorem mem_subnets {family : Family} {subnet : Subnet family} :
    subnet ∈ network.subnets family ↔
      ∃ pool ∈ network.pools family, pool.subnet = ⟨family, subnet⟩ := by
  simp only [subnets, Assignment.subnets, List.mem_filterMap, Family.select?_eq_some_iff]

theorem subnets_ne_nil {family : Family} :
    network.subnets family ≠ [] ↔ ∃ pool ∈ network.pools family, pool.subnet.1 = family := by
  constructor
  · intro nonempty
    obtain ⟨subnet, member⟩ := List.exists_mem_of_ne_nil _ nonempty
    obtain ⟨pool, listed, same⟩ := mem_subnets.mp member
    exact ⟨pool, listed, by rw [same]⟩
  · rintro ⟨pool, listed, rfl⟩
    exact List.ne_nil_of_mem (mem_subnets.mpr ⟨pool, listed, rfl⟩)

/-! ## Safety -/

/-- An endpoint whose addresses are as the pools of its network ask. -/
structure Suits (network : Network) (endpoint : Endpoint) : Prop where
  gateways : ∀ pool ∈ network.ipv4 ++ network.ipv6, ∀ family (gateway : Subnet family),
    pool.gateway = some ⟨family, gateway⟩ → endpoint.held family ≠ some gateway.address
  auxiliaries : ∀ pool ∈ network.ipv4 ++ network.ipv6,
    ∀ (name : String) family (address : Address family),
      pool.auxiliary[name]? = some ⟨family, address⟩ → endpoint.held family ≠ some address
  placed : ∀ family address, endpoint.held family = some address →
    ∃ pool, (network.subnets family).find? (fun pool => decide (pool.Contains address)) =
        some pool ∧
      (pool.length < family.pointToPoint →
        address.value ≠ pool.network ∧ (family = .v4 → address.value ≠ pool.last))
  addressed : ∀ family, (endpoint.held family).isSome = true ↔
    ∃ pool ∈ network.pools family, pool.subnet.1 = family
  hardware : ∀ owner name, (endpoint.report owner name)["mac_address"]? =
    some endpoint.hardware.render

structure AddressSafe (network : Network) : Prop where
  unique : ∀ family address (one other : String) (first second : Endpoint),
    network.endpoints[one]? = some first → network.endpoints[other]? = some second →
    first.held family = some address → second.held family = some address → one = other
  suited : ∀ (name : String) endpoint, network.endpoints[name]? = some endpoint →
    network.Suits endpoint

theorem Suits.setSandbox {endpoint : Endpoint} (suits : network.Suits endpoint)
    (sandbox : Option String) : network.Suits { endpoint with sandbox } :=
  ⟨suits.gateways, suits.auxiliaries, suits.placed, suits.addressed,
    Endpoint.hardware_report _⟩

/-! ## New endpoints -/

section

variable {drawn : HardwareAddress} {requested : Interface} {value : Endpoint}

theorem assigns_of_newEndpoint (made : network.newEndpoint requested drawn = .ok value)
    (family : Family) :
    Assignment.Assigns (network.subnets family) (network.used family)
      (requested.address family) (value.address family) := by
  obtain ⟨ipv4, ipv6, first, second, rfl⟩ := newEndpoint_eq_ok.mp made
  cases family with
  | v4 => exact Assignment.assigns_of_ok first
  | v6 => exact Assignment.assigns_of_ok second

theorem not_mem_used_of_newEndpoint (made : network.newEndpoint requested drawn = .ok value)
    {family : Family} {address : Address family} (holds : value.held family = some address) :
    address ∉ network.used family := by
  have assigned := assigns_of_newEndpoint made family
  obtain ⟨given, got, rfl⟩ := Option.map_eq_some_iff.mp holds
  rw [got] at assigned
  exact assigned.free

theorem suits_of_newEndpoint (made : network.newEndpoint requested drawn = .ok value) :
    network.Suits value := by
  refine ⟨?gateways, ?auxiliaries, ?placed, ?addressed, value.hardware_report⟩
  case gateways =>
    intro pool listed family gateway set holds
    apply not_mem_used_of_newEndpoint made holds
    exact List.mem_append_left _
      (mem_kept.mpr ⟨pool, listed, Pool.mem_kept.mpr (.inl ⟨gateway, set, rfl⟩)⟩)
  case auxiliaries =>
    intro pool listed name family address set holds
    apply not_mem_used_of_newEndpoint made holds
    exact List.mem_append_left _
      (mem_kept.mpr ⟨pool, listed, Pool.mem_kept.mpr (.inr ⟨name, set⟩)⟩)
  case placed =>
    intro family address holds
    have assigned := assigns_of_newEndpoint made family
    obtain ⟨given, got, rfl⟩ := Option.map_eq_some_iff.mp holds
    rw [got] at assigned
    obtain ⟨pool, first, host⟩ := assigned.placed
    refine ⟨pool, first, fun short => ?_⟩
    obtain ⟨afterNetwork, beforeLast⟩ := host (pool.hasInterior_iff.mpr short)
    refine ⟨afterNetwork, fun isV4 => beforeLast ?_⟩
    subst isV4
    rfl
  case addressed =>
    intro family
    have assigned := assigns_of_newEndpoint made family
    rw [Endpoint.held, Option.isSome_map, assigned.isSome_iff, subnets_ne_nil]

end

/-! ## Changes of endpoints -/

theorem AddressSafe.of_empty (empty : network.endpoints = ∅) : network.AddressSafe := by
  constructor
  · intro family address one other first second stored
    simp [empty] at stored
  · intro name endpoint stored
    simp [empty] at stored

theorem AddressSafe.insert (safe : network.AddressSafe) {name : String} {value : Endpoint}
    (suits : network.Suits value)
    (fresh : ∀ family address, value.held family = some address →
      ∀ (other : String) endpoint, network.endpoints[other]? = some endpoint →
        endpoint.held family = some address → other = name) :
    AddressSafe { network with endpoints := network.endpoints.insert name value } := by
  constructor
  · intro family address one other first second storedFirst storedSecond holdsFirst holdsSecond
    simp only [Dictionary.getElem?_insert] at storedFirst storedSecond
    split at storedFirst <;> split at storedSecond
    · next isOne isOther => rw [← isOne, isOther]
    · next isOne isOther =>
        cases storedFirst
        rw [← isOne]
        exact (fresh family address holdsFirst other second storedSecond holdsSecond).symm
    · next isOne isOther =>
        cases storedSecond
        rw [← isOther]
        exact fresh family address holdsSecond one first storedFirst holdsFirst
    · exact safe.unique family address one other first second storedFirst storedSecond
        holdsFirst holdsSecond
  · intro other endpoint stored
    simp only [Dictionary.getElem?_insert] at stored
    split at stored
    · cases stored
      exact ⟨suits.gateways, suits.auxiliaries, suits.placed, suits.addressed, suits.hardware⟩
    · have old := safe.suited other endpoint stored
      exact ⟨old.gateways, old.auxiliaries, old.placed, old.addressed, old.hardware⟩

theorem AddressSafe.erase (safe : network.AddressSafe) (name : String) :
    AddressSafe { network with endpoints := network.endpoints.erase name } := by
  have stays {other : String} {endpoint : Endpoint}
      (stored : (network.endpoints.erase name)[other]? = some endpoint) :
      network.endpoints[other]? = some endpoint := by
    rw [Dictionary.getElem?_erase] at stored
    split at stored
    · cases stored
    · exact stored
  constructor
  · intro family address one other first second storedFirst storedSecond
    exact safe.unique family address one other first second (stays storedFirst)
      (stays storedSecond)
  · intro other endpoint stored
    have old := safe.suited other endpoint (stays stored)
    exact ⟨old.gateways, old.auxiliaries, old.placed, old.addressed, old.hardware⟩

end Network

namespace Registry

variable {drawn : HardwareAddress} {registry : Registry}

/-! ## Requests and sessions -/

def AddressSafe (registry : Registry) : Prop :=
  ∀ (name : String) network, registry[name]? = some network → network.AddressSafe

theorem AddressSafe.insert (safe : registry.AddressSafe) {name : String} {network : Network}
    (safeNetwork : network.AddressSafe) : AddressSafe (registry.insert name network) := by
  intro other found stored
  rw [Dictionary.getElem?_insert] at stored
  split at stored
  · cases stored
    exact safeNetwork
  · exact safe other found stored

theorem AddressSafe.erase (safe : registry.AddressSafe) (name : String) :
    AddressSafe (registry.erase name) := by
  intro other found stored
  rw [Dictionary.getElem?_erase] at stored
  split at stored
  · cases stored
  · exact safe other found stored

theorem AddressSafe.setSandbox (safe : registry.AddressSafe) {network endpoint : String}
    {owner : Network} {value : Endpoint} (stored : registry[network]? = some owner)
    (present : owner.endpoints[endpoint]? = some value) (sandbox : Option String) :
    AddressSafe (registry.putEndpoint network endpoint owner { value with sandbox }) := by
  have safeOwner := safe network owner stored
  have suits := (safeOwner.suited endpoint value present).setSandbox sandbox
  refine safe.insert (safeOwner.insert suits ?_)
  intro family address holds other second storedSecond holdsSecond
  exact safeOwner.unique family address other endpoint second value storedSecond present
    holdsSecond holds

theorem Grants.addressSafe {call : Call} {turn : Turn Registry call.Reply}
    (granted : Grants drawn registry call turn) (safe : registry.AddressSafe) :
    turn.state.AddressSafe := by
  cases granted with
  | networkCreated absent => exact safe.insert (.of_empty rfl)
  | networkDeleted stored empty => exact safe.erase _
  | endpointReported stored present => exact safe
  | endpointCreated stored absent made =>
      refine safe.insert ((safe _ _ stored).insert (Network.suits_of_newEndpoint made) ?_)
      intro family address holds other second storedSecond holdsSecond
      refine absurd ?_ (Network.not_mem_used_of_newEndpoint made holds)
      exact List.mem_append_right _
        (Network.mem_held.mpr ⟨other, second, storedSecond, holdsSecond⟩)
  | endpointDeleted stored present idle => exact safe.insert ((safe _ _ stored).erase _)
  | joined stored present idle => exact safe.setSandbox stored present _
  | left stored present joined => exact safe.setSandbox stored present none

/-- After every session, the endpoints of each network hold different addresses, none of
them kept by a pool, each where the pools have it. -/
theorem addresses_safe (inputs : List Input) : (run ∅ inputs).AddressSafe := by
  refine run_invariant ?_ (fun granted safe => granted.addressSafe safe) inputs
  intro name network stored
  simp at stored

example : ((run ∅ [.makeNetwork "blue" "10.0.0.0/30", .makeEndpoint "blue" "one",
    .makeEndpoint "blue" "two"])["blue"]?.map fun network =>
      (network.held .v4).map Address.render) = some ["10.0.0.1", "10.0.0.2"] := by
  rfl

end Registry

end NetworkPlugin
