import NetworkPlugin.Proofs.Attachment
import NetworkPlugin.Proofs.Registry.Occupancy
import NetworkPlugin.Proofs.Registry.Reporting

/-!
# What is told to those who join

A sandbox that an endpoint joins is told the gateways of the network, and these are settled by
the request that made the network: nothing but its deletion changes the pools of a network.
Gateways are kept from endpoints, so that no endpoint has the address that it is told to use.
-/

namespace NetworkPlugin

/-! ## Gateways of entries -/

namespace PoolEntry

def HasGateway (entry : PoolEntry) {family : Family} (address : Address family) : Prop :=
  ∃ gateway : Subnet family, gateway.Spells entry.gateway ∧ gateway.address = address

/-- The gateway of the first entry that has one of the family, if there is such an entry. -/
inductive FirstGateway {family : Family} : List PoolEntry → Option (Address family) → Prop
  | none : FirstGateway [] none
  | found {entry others address} (has : entry.HasGateway address) :
      FirstGateway (entry :: others) (some address)
  | skipped {entry others first} (without : ∀ address : Address family, ¬ entry.HasGateway address)
      (rest : FirstGateway others first) : FirstGateway (entry :: others) first

theorem hasGateway_iff {entry : PoolEntry} {family : Family} {address : Address family} :
    entry.HasGateway address ↔
      (Subnet.parse? family entry.gateway).map (·.address) = some address := by
  simp only [HasGateway, Option.map_eq_some_iff, Subnet.parse?_eq_some_iff]

theorem FirstGateway.unique {family : Family} {entries : List PoolEntry}
    {one other : Option (Address family)} (first : FirstGateway entries one)
    (second : FirstGateway entries other) : one = other := by
  induction first with
  | none =>
      cases second
      rfl
  | found has =>
      cases second with
      | found hasToo => exact (hasGateway_iff.mp has).symm.trans (hasGateway_iff.mp hasToo)
      | skipped without => exact absurd has (without _)
  | skipped without rest ih =>
      cases second with
      | found has => exact absurd has (without _)
      | skipped _ restToo => exact ih restToo

theorem Gives.hasGateway_iff {entry : PoolEntry} {pool : Pool} (gives : entry.Gives pool)
    {family : Family} {address : Address family} :
    entry.HasGateway address ↔
      (pool.gateway.bind fun gateway => (family.select? gateway).map (·.address)) =
        some address := by
  simp only [Option.bind_eq_some_iff, Option.map_eq_some_iff, Family.select?_eq_some_iff,
    gives.gateway]
  constructor
  · rintro ⟨gateway, spelled, same⟩
    exact ⟨⟨family, gateway⟩, spelled, gateway, rfl, same⟩
  · rintro ⟨_, spelled, gateway, rfl, same⟩
    exact ⟨gateway, spelled, same⟩

end PoolEntry

theorem Network.firstGateway_of_ofEntries {network : Network} {family : Family}
    {entries : List PoolEntry} (read : Pool.ofEntries entries = .ok (network.pools family)) :
    PoolEntry.FirstGateway entries (network.gateway? family) := by
  unfold gateway?
  have pairs := Pool.ofEntriesFrom_eq_ok.mp read
  generalize network.pools family = pools at pairs
  clear read
  induction pairs with
  | nil => exact .none
  | @cons entry pool entries pools first others ih =>
      have gives := Pool.gives_of_ofEntry first
      rw [List.findSome?_cons]
      split
      · next address told => exact .found (gives.hasGateway_iff.mpr told)
      · next untold =>
          refine .skipped (fun address has => ?_) ih
          cases untold.symm.trans (gives.hasGateway_iff.mp has)

/-! ## Answers to those who join -/

structure Response.Attaches (response : Response) (endpoint : String)
    (gateway : Option (Address .v4)) (gatewayV6 : Option (Address .v6)) : Prop where
  value : response = .attachment (Attachment.toText
    { device := ⟨"veth" ++ String.ofList (endpoint.toList.take 7), "eth"⟩, gateway, gatewayV6 })
  gateway : response.json.member? "Gateway" = gateway.map fun address => .string address.render
  gatewayV6 : response.json.member? "GatewayIPv6" =
    gatewayV6.map fun address => .string address.render
  routes : response.json.member? "StaticRoutes" = none

theorem Network.attaches (network : Network) (endpoint : String) :
    (Response.attachment (network.attachment endpoint).toText).Attaches endpoint
      (network.gateway? .v4) (network.gateway? .v6) := by
  have shown := (network.attachment endpoint).shown_toJson
  exact ⟨rfl, shown.gateway, shown.gatewayV6, shown.routes⟩

namespace Registry

variable {drawn : HardwareAddress} {registry : Registry} {name : String} {owner : Network}

theorem attaches_of_join {arguments : JoinArguments} {response : Response}
    (joined : (serve registry ⟨drawn, .join arguments⟩).answer = .ok response) :
    ∃ owner, registry[arguments.network]? = some owner ∧
      response.Attaches arguments.endpoint (owner.gateway? .v4) (owner.gateway? .v6) := by
  cases served registry ⟨drawn, .join arguments⟩ with
  | known result planned => cases planned
  | granted call respond turn planned granted =>
      rw [serve_of_grants planned granted] at joined
      cases asks_of_plan planned with
      | join =>
          cases granted with
          | @joined _ _ _ _ owner _ stored =>
              cases joined
              exact ⟨owner, stored, owner.attaches arguments.endpoint⟩
  | refused call respond refusal planned refused =>
      rw [serve_of_refuses planned refused] at joined
      cases joined

/-! ## Pools stay -/

def HasPools (registry : Registry) (name : String) (ipv4 ipv6 : List Pool) : Prop :=
  ∃ owner, registry[name]? = some owner ∧ owner.ipv4 = ipv4 ∧ owner.ipv6 = ipv6

variable {ipv4 ipv6 : List Pool}

theorem HasPools.insert (has : HasPools registry name ipv4 ipv6) {network : String}
    (endpoints : Dictionary Endpoint) (found : registry[network]? = some owner) :
    HasPools (registry.insert network { owner with endpoints }) name ipv4 ipv6 := by
  unfold HasPools
  rw [Dictionary.getElem?_insert]
  split
  · next same =>
      obtain ⟨other, stored, pools⟩ := has
      rw [← same, found] at stored
      cases stored
      exact ⟨_, rfl, pools⟩
  · exact has

theorem Grants.hasPools {request : Request} {call : Call} {respond : call.Reply → Response}
    {turn : Turn Registry call.Reply} (planned : request.plan = .ask call respond)
    (granted : Grants drawn registry call turn) (undeleted : request ≠ .deleteNetwork ⟨name⟩)
    (has : HasPools registry name ipv4 ipv6) : HasPools turn.state name ipv4 ipv6 := by
  cases asks_of_plan planned with
  | createNetwork =>
      cases granted with
      | networkCreated absent =>
          unfold HasPools
          rw [Dictionary.getElem?_insert]
          split
          · next same =>
              obtain ⟨owner, stored, -⟩ := has
              rw [← same, absent] at stored
              cases stored
          · exact has
  | @deleteNetwork arguments =>
      cases granted with
      | networkDeleted found empty =>
          unfold HasPools
          rw [Dictionary.getElem?_erase]
          split
          · next same =>
              cases same
              exact absurd rfl undeleted
          · exact has
  | endpointInfo =>
      cases granted with
      | endpointReported found present => exact has
  | createEndpoint =>
      cases granted with
      | endpointCreated found absent made => exact has.insert _ found
  | deleteEndpoint =>
      cases granted with
      | endpointDeleted found present idle => exact has.insert _ found
  | join =>
      cases granted with
      | joined found present idle => exact has.insert _ found
  | leave =>
      cases granted with
      | left found present joined => exact has.insert _ found

theorem serve_hasPools {input : Input} (has : HasPools registry name ipv4 ipv6)
    (undeleted : ∀ answer, (serve registry input).answer = .ok answer →
      input.request ≠ .deleteNetwork ⟨name⟩) :
    HasPools (serve registry input).state name ipv4 ipv6 := by
  cases served registry input with
  | known result planned => rwa [serve_of_answer planned]
  | granted call respond turn planned granted =>
      rw [serve_of_grants planned granted] at undeleted ⊢
      exact granted.hasPools planned (undeleted _ rfl) has
  | refused call respond refusal planned refused => rwa [serve_of_refuses planned refused]

theorem run_hasPools (inputs : List Input) (has : HasPools registry name ipv4 ipv6)
    (undeleted : ∀ answer, (.deleteNetwork ⟨name⟩, .ok answer) ∉ history registry inputs) :
    HasPools (run registry inputs) name ipv4 ipv6 := by
  induction inputs generalizing registry with
  | nil => exact has
  | cons input inputs ih =>
      simp only [history_cons, List.mem_cons, not_or] at undeleted
      have now := serve_hasPools has fun answer answered request =>
        (undeleted answer).1 (by rw [answered, request])
      exact ih now fun answer => (undeleted answer).2

/-! ## Gateways are nobody's addresses -/

theorem not_holds_gateway (inputs : List Input) (stored : (run ∅ inputs)[name]? = some owner)
    {family : Family} {address : Address family} (told : owner.gateway? family = some address)
    (endpoint : String) : ¬ Holds (run ∅ inputs) (name, endpoint) address := by
  rintro ⟨value, found, held⟩
  rw [endpoint?_of_some stored] at found
  have suits := (addresses_safe inputs name owner stored).suited endpoint value found
  obtain ⟨pool, listed, given⟩ := List.exists_of_findSome?_eq_some told
  obtain ⟨⟨_, gateway⟩, set, selected⟩ := Option.bind_eq_some_iff.mp given
  obtain ⟨subnet, same, rfl⟩ := Option.map_eq_some_iff.mp selected
  cases Family.select?_eq_some_iff.mp same
  have known : pool ∈ owner.ipv4 ++ owner.ipv6 := by
    cases family with
    | v4 => exact List.mem_append_left _ listed
    | v6 => exact List.mem_append_right _ listed
  exact suits.gateways pool known family _ set held

/-- Who joins an endpoint is told the gateways of the request that the network was last made
with. They are the same throughout the lifetime of the network, and no endpoint on it ever
holds one of them. -/
theorem joins_tell_first_gateways :
    (∀ inputs drawn arguments response,
      (serve (run ∅ inputs) ⟨drawn, .join arguments⟩).answer = .ok response →
      ∃ made gateway gatewayV6,
        Past.lastNetwork? arguments.network (history ∅ inputs) = some made ∧
        PoolEntry.FirstGateway made.ipv4 gateway ∧ PoolEntry.FirstGateway made.ipv6 gatewayV6 ∧
        response.Attaches arguments.endpoint gateway gatewayV6) ∧
    ∀ inputs drawn (made : NetworkArguments Json),
      let created := serve (run ∅ inputs) ⟨drawn, .createNetwork made⟩
      created.answer.isOk = true →
      ∃ gateway gatewayV6,
        PoolEntry.FirstGateway made.ipv4 gateway ∧ PoolEntry.FirstGateway made.ipv6 gatewayV6 ∧
        ∀ after,
          (∀ answer, (.deleteNetwork ⟨made.network⟩, .ok answer) ∉
            history created.state after) →
          (∀ drawn arguments response, arguments.network = made.network →
            (serve (run created.state after) ⟨drawn, .join arguments⟩).answer = .ok response →
            response.Attaches arguments.endpoint gateway gatewayV6) ∧
          ∀ endpoint,
            (∀ address, gateway = some address →
              ¬ Holds (run created.state after) (made.network, endpoint) address) ∧
            ∀ address, gatewayV6 = some address →
              ¬ Holds (run created.state after) (made.network, endpoint) address := by
  constructor
  · intro inputs drawn arguments response joined
    obtain ⟨owner, stored, attaches⟩ := attaches_of_join joined
    obtain ⟨made, last, read, readV6⟩ := run_pools inputs stored
    exact ⟨made, _, _, last, owner.firstGateway_of_ofEntries read,
      owner.firstGateway_of_ofEntries readV6, attaches⟩
  · intro inputs drawn made created succeeded
    obtain ⟨ipv4, ipv6, makes⟩ := networkCreated_of_isOk succeeded
    let fresh : Network := { ipv4, ipv6 }
    refine ⟨fresh.gateway? .v4, fresh.gateway? .v6,
      fresh.firstGateway_of_ofEntries (readPools_eq_ok.mp makes.read),
      fresh.firstGateway_of_ofEntries (readPools_eq_ok.mp makes.readV6), ?_⟩
    intro after undeleted
    have start : HasPools created.state made.network ipv4 ipv6 :=
      ⟨fresh, makes.stored drawn, rfl, rfl⟩
    obtain ⟨owner, stored, rfl, rfl⟩ := run_hasPools after start undeleted
    constructor
    · intro drawn arguments response here joined
      obtain ⟨other, found, attaches⟩ := attaches_of_join joined
      rw [here, stored] at found
      cases found
      exact attaches
    · -- The state is that of one session from the start, throughout which addresses are safe.
      have whole : run created.state after =
          run ∅ (inputs ++ ⟨drawn, .createNetwork made⟩ :: after) :=
        (run_append ∅ inputs (⟨drawn, .createNetwork made⟩ :: after)).symm
      rw [whole] at stored ⊢
      intro endpoint
      exact ⟨fun address told => not_holds_gateway _ stored told endpoint,
        fun address told => not_holds_gateway _ stored told endpoint⟩

/-- An entry without a gateway and one with a gateway of the other family are passed over, also
when another endpoint has joined and left. -/
theorem third_entry_has_first_gateway :
    let made : NetworkArguments Json :=
      { network := "blue", ipv4 := [{ pool := "10.0.0.0/29" },
          { pool := "10.0.1.0/29", gateway := "fd00::1/64" },
          { pool := "10.0.2.0/29", gateway := "10.0.2.3/29" }] }
    let created := serve ∅ ⟨default, .createNetwork made⟩
    let after : List Input := [.makeEndpoint "blue" "one", .makeEndpoint "blue" "interface",
      ⟨default, .join ⟨"blue", "one", "box", ∅⟩⟩, ⟨default, .leave ⟨"blue", "one"⟩⟩]
    created.answer.isOk = true ∧
    ∃ response,
      (serve (run created.state after) ⟨default, .join ⟨"blue", "interface", "box", ∅⟩⟩).answer =
        .ok response ∧
      response.Attaches "interface" (some ⟨0x0a000203, by decide⟩) none := by
  intro made created after
  have succeeded : created.answer.isOk = true := rfl
  obtain ⟨gateway, gatewayV6, first, firstV6, later⟩ :=
    joins_tell_first_gateways.2 [] default made succeeded
  have done : Past.done (fun request => some request.operation) (history created.state after) =
      [.createEndpoint, .createEndpoint, .join, .leave] := by decide
  have undeleted : ∀ answer,
      (.deleteNetwork ⟨"blue"⟩, .ok answer) ∉ history created.state after := by
    intro answer member
    have deleted : Operation.deleteNetwork ∈
        Past.done (fun request => some request.operation) (history created.state after) :=
      List.mem_filterMap.mpr ⟨_, member, rfl⟩
    simp [done] at deleted
  have without {entry : PoolEntry} (unread : Subnet.parse? .v4 entry.gateway = none)
      (address : Address .v4) : ¬ entry.HasGateway address := by
    simp [PoolEntry.hasGateway_iff, unread]
  have third : PoolEntry.FirstGateway made.ipv4 (some (⟨0x0a000203, by decide⟩ : Address .v4)) :=
    .skipped (without rfl) (.skipped (without rfl) (.found (PoolEntry.hasGateway_iff.mpr rfl)))
  have joined : (serve (run created.state after)
      ⟨default, .join ⟨"blue", "interface", "box", ∅⟩⟩).answer.isOk = true := by decide
  cases told : (serve (run created.state after)
      ⟨default, .join ⟨"blue", "interface", "box", ∅⟩⟩).answer with
  | error failure =>
      rw [told] at joined
      cases joined
  | ok response =>
      have attaches :=
        (later after undeleted).1 default ⟨"blue", "interface", "box", ∅⟩ response rfl told
      rw [first.unique third, firstV6.unique .none] at attaches
      exact ⟨succeeded, response, rfl, attaches⟩

end Registry

end NetworkPlugin
