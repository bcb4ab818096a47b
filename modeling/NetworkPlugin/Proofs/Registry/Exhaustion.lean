import NetworkPlugin.Proofs.Pool
import NetworkPlugin.Proofs.Registry.Filling

/-!
# Exhausted pools

When no address of a pool is found for an endpoint, none that was looked at can be
requested either.  Two kinds of addresses are not looked at, though a request for them may
succeed: the network address of a pool in which all addresses are hosts, and what lies
beyond the first candidates of a large pool.
-/

namespace NetworkPlugin

/-! ## What is said of an exhausted pool -/

theorem Refusal.family_of_poolExhausted {family other : Family} {pool : Subnet family}
    {shown : Subnet other}
    (same : (poolExhausted other shown).failure = (poolExhausted family pool).failure) :
    other = family := by
  have texts := congrArg (fun failure => failure.message.toList) same
  cases family <;> cases other
  · rfl
  · simp [failure, message, Family.name] at texts
  · simp [failure, message, Family.name] at texts
  · rfl

namespace Network

variable {network : Network} {family : Family} {requested : Interface} {refusal : Refusal}
  {drawn : HardwareAddress} {pool : Subnet family}

theorem firstFree?_of_denies {other : Family} {wanted : Option (Subnet other)}
    (denied : Assignment.Denies (network.subnets other) (network.used other) wanted refusal)
    (told : refusal.failure = (Refusal.poolExhausted family pool).failure) :
    ∃ shown others, network.subnets family = shown :: others ∧
      Assignment.firstFree? shown (network.used family) = none := by
  cases denied with
  | poolExhausted listed full =>
      obtain rfl := Refusal.family_of_poolExhausted told
      exact ⟨_, _, listed, full⟩
  | outsidePools | notAHost | addressInUse => cases congrArg Failure.kind told

theorem firstFree?_of_newEndpoint (failed : network.newEndpoint requested drawn = .error refusal)
    (told : refusal.failure = (Refusal.poolExhausted family pool).failure) :
    ∃ shown others, network.subnets family = shown :: others ∧
      Assignment.firstFree? shown (network.used family) = none := by
  rcases newEndpoint_eq_error failed with denied | denied
  · exact firstFree?_of_denies denied told
  · exact firstFree?_of_denies denied told

theorem not_near_of_newEndpoint {others : List (Subnet family)}
    (listed : network.subnets family = pool :: others)
    (full : Assignment.firstFree? pool (network.used family) = none) {value : Endpoint}
    (made : network.newEndpoint requested drawn = .ok value) {given : Subnet family}
    (asked : requested.address family = some given) (inside : pool.Contains given.address)
    (proper : given.address.value = pool.network → pool.length < family.pointToPoint) :
    ¬ given.address.value ≤ pool.network + 65536 := by
  intro near
  have assigned := assigns_of_newEndpoint made family
  rw [asked] at assigned
  generalize value.address family = got at assigned
  cases assigned with
  | asRequested first host free =>
      have found : (pool :: others).find?
          (fun pool => decide (pool.Contains given.address)) = some pool :=
        List.find?_cons_of_pos (decide_eq_true inside)
      rw [listed, found] at first
      cases first
      -- A host is not the network address, unless the pool is too small to keep that one.
      have after : pool.network < given.address.value := by
        apply Nat.lt_of_le_of_ne inside.1
        intro same
        exact (host (pool.hasInterior_iff.mpr (proper same.symm))).1 same.symm
      apply free
      apply Assignment.firstFree?_eq_none.mp full
      refine Subnet.mem_probed.mpr ⟨inside, after, near, fun isV4 short => ?_⟩
      obtain ⟨interior, broadcasts⟩ := pool.broadcasts_iff.mpr ⟨isV4, short⟩
      exact (host interior).2 broadcasts

end Network

namespace Registry

variable {registry : Registry} {network : Network} {family : Family} {pool : Subnet family}
  {others : List (Subnet family)}

/-- While the first pool of a family is said to be exhausted, no request succeeds for an
address in it, unless the search does not come to this address. -/
theorem exhausted_pool_refuses {name : String} (stored : registry[name]? = some network)
    (listed : network.subnets family = pool :: others)
    {drawn again : HardwareAddress} {arguments wish : EndpointArguments}
    (here : arguments.network = name) {shown : Subnet family}
    (exhausted : (serve registry ⟨drawn, .createEndpoint arguments⟩).answer =
      .error (Refusal.poolExhausted family shown).failure)
    (hereToo : wish.network = name) {wanted : Interface}
    (read : readInterface wish = .ok wanted) {given : Subnet family}
    (asked : wanted.address family = some given) (inside : pool.Contains given.address)
    (proper : given.address.value = pool.network → pool.length < family.pointToPoint)
    (near : given.address.value ≤ pool.network + 65536) :
    (serve registry ⟨again, .createEndpoint wish⟩).answer.isOk = false := by
  -- Both requests are decided by what the same network holds.
  obtain ⟨requested, owner, refusal, unassigned, told⟩ :=
    unassigned_of_noService exhausted rfl
  have same := unassigned.stored
  rw [here, stored] at same
  cases same
  obtain ⟨first, rest, listedToo, full⟩ :=
    Network.firstFree?_of_newEndpoint unassigned.failed told
  rw [listed] at listedToo
  cases listedToo
  cases succeeded : (serve registry ⟨again, .createEndpoint wish⟩).answer.isOk with
  | false => rfl
  | true =>
      obtain ⟨interface, owned, value, created⟩ := created_of_isOk succeeded
      have sameInterface := created.read
      rw [read] at sameInterface
      cases sameInterface
      have sameOwner := created.stored
      rw [hereToo, stored] at sameOwner
      cases sameOwner
      exact absurd near
        (Network.not_near_of_newEndpoint listed full created.made asked inside proper)

theorem full_pool_refuses :
    (serve (run ∅ [.makeNetwork "blue" "10.0.0.0/30", .makeEndpoint "blue" "one",
        .makeEndpoint "blue" "two"]) (.makeEndpoint "blue" "next")).answer =
      .error ⟨some .noService, "no IPv4 addresses available in 10.0.0.0/30"⟩ ∧
    (serve (run ∅ [.makeNetwork "blue" "10.0.0.0/30", .makeEndpoint "blue" "one",
        .makeEndpoint "blue" "two"])
      ⟨default, .createEndpoint
        { network := "blue", endpoint := "other",
          interface := some { ipv4 := "10.0.0.2/30" } }⟩).answer.isOk = false := by
  have exhausted : (serve (run ∅ [.makeNetwork "blue" "10.0.0.0/30", .makeEndpoint "blue" "one",
      .makeEndpoint "blue" "two"]) (.makeEndpoint "blue" "next")).answer =
      .error (Refusal.poolExhausted .v4 (.ofNumbers .v4 0x0a000000 30)).failure := rfl
  refine ⟨exhausted, ?_⟩
  exact exhausted_pool_refuses rfl rfl rfl exhausted rfl rfl rfl (by decide) (by decide)
    (by decide)

end Registry

/-! ## Full pools -/

variable {family : Family}

def Pool.keeping (subnet : Subnet family) (addresses : List (Address family)) : Pool where
  addressSpace := ""
  subnet := ⟨family, subnet⟩
  gateway := none
  auxiliary := .ofList (addresses.map fun address => (address.render, ⟨family, address⟩)) compare

theorem Pool.mem_kept_keeping {subnet : Subnet family} {addresses : List (Address family)}
    (distinct : addresses.Nodup) {address : Address family} :
    address ∈ (keeping subnet addresses).kept family ↔ address ∈ addresses := by
  have listed {other : Address family} (member : other ∈ addresses) :
      (keeping subnet addresses).auxiliary[other.render]? = some ⟨family, other⟩ := by
    refine Std.ExtTreeMap.getElem?_ofList_of_mem Std.ReflCmp.compare_self ?_
      (List.mem_map.mpr ⟨other, member, rfl⟩)
    rw [List.pairwise_map]
    apply distinct.imp
    intro one another differ
    rw [Std.LawfulEqCmp.compare_eq_iff_eq]
    exact fun same => differ (Address.render_injective same)
  rw [mem_kept]
  constructor
  · rintro (⟨_, set, -⟩ | ⟨name, stored⟩)
    · cases set
    · by_cases known : ∃ other ∈ addresses, other.render = name
      · obtain ⟨other, member, rfl⟩ := known
        rw [listed member] at stored
        cases stored
        exact member
      · have absent : (keeping subnet addresses).auxiliary[name]? = none := by
          apply Std.ExtTreeMap.getElem?_ofList_of_contains_eq_false
          simpa using known
        rw [absent] at stored
        cases stored
  · intro member
    exact .inr ⟨address.render, listed member⟩

def Interface.ofSubnet : {family : Family} → Subnet family → Interface
  | .v4, given => ⟨none, some given, none⟩
  | .v6, given => ⟨none, none, some given⟩

namespace Network

variable {family : Family}

/-- A network with one pool that keeps for itself whatever would be looked at. -/
def crowded (pool : Subnet family) : Network :=
  let filled := Pool.keeping pool pool.probed
  match family with
  | .v4 => { ipv4 := [filled], ipv6 := [] }
  | .v6 => { ipv4 := [], ipv6 := [filled] }

theorem endpoints_crowded (pool : Subnet family) : (crowded pool).endpoints = ∅ := by
  cases family <;> rfl

theorem subnets_crowded (pool : Subnet family) : (crowded pool).subnets family = [pool] := by
  have own : family.select? (Pool.keeping pool pool.probed).subnet = some pool :=
    Family.select?_mk family pool
  cases family <;> simp [crowded, subnets, pools, Assignment.subnets, own]

theorem mem_used_crowded {pool : Subnet family} {address : Address family} :
    address ∈ (crowded pool).used family ↔ address ∈ pool.probed := by
  have keeps : address ∈ (Pool.keeping pool pool.probed).kept family ↔ address ∈ pool.probed :=
    Pool.mem_kept_keeping pool.probed_nodup
  have unheld : address ∉ (crowded pool).held family := by
    cases family <;> simp [crowded, mem_held]
  have alone : (crowded pool).kept family = (Pool.keeping pool pool.probed).kept family := by
    cases family <;> simp [crowded, kept]
  simp [used, alone, keeps, unheld]

theorem newEndpoint_crowded_none (pool : Subnet family) (drawn : HardwareAddress) :
    (crowded pool).newEndpoint {} drawn = .error (.poolExhausted family pool) := by
  have full : Assignment.firstFree? pool ((crowded pool).used family) = none :=
    Assignment.firstFree?_eq_none.mpr fun _ member => mem_used_crowded.mpr member
  have denied : Assignment.assign ((crowded pool).subnets family) ((crowded pool).used family)
      none = .error (.poolExhausted family pool) := by
    simp [Assignment.assign, Assignment.pickFree, subnets_crowded, full]
  cases family with
  | v4 => rw [newEndpoint, denied, Except.error_bind]
  | v6 =>
      rw [newEndpoint, denied]
      rfl

theorem newEndpoint_crowded_ofSubnet {pool given : Subnet family}
    (inside : pool.Contains given.address) (host : pool.IsHost given.address)
    (unseen : given.address ∉ pool.probed) (drawn : HardwareAddress) :
    ∃ value, (crowded pool).newEndpoint (.ofSubnet given) drawn = .ok value := by
  have free : given.address ∉ (crowded pool).used family :=
    fun taken => unseen (mem_used_crowded.mp taken)
  have assigned : Assignment.assign ((crowded pool).subnets family)
      ((crowded pool).used family) (some given) = .ok (some given) := by
    simp [Assignment.assign, Assignment.checkRequested, subnets_crowded, inside, host, free,
      Except.map]
  cases family with
  | v4 =>
      refine ⟨⟨drawn.localUnicast, some given, none, none⟩, ?_⟩
      rw [newEndpoint, Interface.ofSubnet, assigned]
      rfl
  | v6 =>
      refine ⟨⟨drawn.localUnicast, none, some given, none⟩, ?_⟩
      rw [newEndpoint, Interface.ofSubnet, assigned]
      rfl

end Network

namespace Registry

variable {family : Family}

/-! ## Room that is not seen -/

def Input.requestAddress (network endpoint : String) (given : Subnet family) : Input :=
  ⟨default, .createEndpoint
    { network, endpoint, interface := some (Interface.ofSubnet given).toText }⟩

/-- The first pool of a family is said to be exhausted while a request succeeds for an
address inside of it. -/
def Overlooks (registry : Registry) (name : String) (given : Subnet family) : Prop :=
  ∃ network pool others, registry[name]? = some network ∧
    network.subnets family = pool :: others ∧ pool.Contains given.address ∧
    (serve registry (.makeEndpoint name "next")).answer =
      .error (Refusal.poolExhausted family pool).failure ∧
    (serve registry (.requestAddress name "other" given)).answer.isOk = true

def Input.requestNetwork (name : String) (network : Network) : Input :=
  ⟨default, .createNetwork
    { network := name
      ipv4 := network.ipv4.map Pool.toEntry
      ipv6 := network.ipv6.map Pool.toEntry }⟩

theorem run_requestNetwork (name : String) {network : Network}
    (empty : network.endpoints = ∅) :
    (run ∅ [.requestNetwork name network])[name]? = some network := by
  have created : NetworkCreated ∅
      { network := name
        ipv4 := network.ipv4.map Pool.toEntry
        ipv6 := network.ipv6.map Pool.toEntry } network.ipv4 network.ipv6 :=
    ⟨readPools_map_toEntry .v4 _, readPools_map_toEntry .v6 _, Std.ExtTreeMap.getElem?_empty⟩
  have stored := created.stored default
  rwa [← empty] at stored

def crowded (pool : Subnet family) : Registry :=
  run ∅ [.requestNetwork "blue" (.crowded pool)]

/-- Every host of a full pool is overlooked that is not looked at. -/
theorem overlooks_of_not_probed {pool given : Subnet family}
    (inside : pool.Contains given.address) (host : pool.IsHost given.address)
    (unseen : given.address ∉ pool.probed) : Overlooks (crowded pool) "blue" given := by
  have stored : (crowded pool)["blue"]? = some (.crowded pool) :=
    run_requestNetwork "blue" (Network.endpoints_crowded pool)
  have absent (endpoint : String) : (Network.crowded pool).endpoints[endpoint]? = none := by
    rw [Network.endpoints_crowded]
    exact Std.ExtTreeMap.getElem?_empty
  have unassigned : Unassigned (crowded pool) default
      { network := "blue", endpoint := "next" } {} (.crowded pool) (.poolExhausted family pool) :=
    ⟨rfl, stored, absent "next", Network.newEndpoint_crowded_none pool default⟩
  obtain ⟨value, made⟩ := Network.newEndpoint_crowded_ofSubnet inside host unseen default
  have read : readInterface
      { network := "blue", endpoint := "other",
        interface := some (Interface.ofSubnet given).toText } = .ok (.ofSubnet given) := by
    rw [readInterface, Interface.ofText?, Interface.ofText_toText, Except.mapError_ok]
  have created : Created (crowded pool) default _ _ (.crowded pool) value :=
    ⟨read, stored, absent "other", made⟩
  refine ⟨.crowded pool, pool, [], stored, Network.subnets_crowded pool, inside, ?_, ?_⟩
  · exact congrArg (·.answer) unassigned.serve_eq
  · rw [Input.requestAddress, created.serve_eq]
    rfl

theorem exhausted_pool_can_have_room :
    Overlooks (crowded (.ofNumbers .v4 0x0a000000 31)) "blue"
        (.ofNumbers .v4 0x0a000000 31) ∧
      Overlooks (crowded (.ofNumbers .v4 0x0a000000 15)) "blue"
        (.ofNumbers .v4 0x0a010001 15) ∧
      Overlooks (crowded (.ofNumbers .v6 (0xfd00 <<< 112) 127)) "blue"
        (.ofNumbers .v6 (0xfd00 <<< 112) 127) ∧
      Overlooks (crowded (.ofNumbers .v6 (0xfd00 <<< 112) 64)) "blue"
        (.ofNumbers .v6 (0xfd00 <<< 112 + 0x10001) 64) := by
  refine ⟨?_, ?_, ?_, ?_⟩
  all_goals
    apply overlooks_of_not_probed
    · decide
    · decide
    · rw [Subnet.mem_probed]
      decide

end Registry

end NetworkPlugin
