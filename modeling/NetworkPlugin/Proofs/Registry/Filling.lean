import NetworkPlugin.Proofs.Registry.Candidates
import NetworkPlugin.Proofs.Registry.Creation
import NetworkPlugin.Proofs.Registry.Isolation

/-!
# Filling a network

A new network gives its addresses away one after the other: each endpoint that asks for
none gets the next of those that the first pool offers, and once they are used up there is
no service.  What carries the proof is that after some endpoints exactly as many addresses
are held, the first ones on offer, whatever else is asked of the network in between.
-/

namespace NetworkPlugin

theorem find?_not_mem_take {Value : Type} [DecidableEq Value] {values : List Value}
    (distinct : values.Nodup) (count : Nat) :
    values.find? (fun value => decide (value ∉ values.take count)) = values[count]? := by
  -- The search runs through the first ones in vain and stops at the next element.
  have early : (values.take count).find?
      (fun value => decide (value ∉ values.take count)) = none := by
    simp
  have parts := List.take_append_drop count values
  rw [← parts, List.nodup_append] at distinct
  have split : values.find? (fun value => decide (value ∉ values.take count)) =
      (values.drop count).find? (fun value => decide (value ∉ values.take count)) := by
    conv => lhs; arg 2; rw [← parts]
    rw [List.find?_append, early, Option.none_or]
  rw [split]
  cases rest : values.drop count with
  | nil =>
      have short : values.length ≤ count := List.drop_eq_nil_iff.mp rest
      simp [short]
  | cons next others =>
      have fresh : next ∉ values.take count := by
        intro member
        exact distinct.2.2 next member next (rest ▸ List.mem_cons_self) rfl
      have found : values[count]? = some next := by
        have head := congrArg List.head? rest
        rwa [List.head?_drop, List.head?_cons] at head
      rw [List.find?_cons_of_pos (by simpa using fresh), found]

namespace Network

variable {owner network : Network} {family : Family}

/-! ## Addresses on offer -/

/-- The addresses that are given away one after the other, those of a pool that no pool of
the network keeps for itself. -/
def offers (network : Network) (pool : Subnet family) : List (Address family) :=
  pool.probed.filter fun address => !(network.kept family).contains address

theorem offers_increasing (network : Network) (pool : Subnet family) :
    (network.offers pool).Pairwise fun one other => one.value < other.value :=
  pool.probed_increasing.filter _

theorem offers_nodup (network : Network) (pool : Subnet family) :
    (network.offers pool).Nodup :=
  (network.offers_increasing pool).imp fun less same => Nat.ne_of_lt less (congrArg _ same)

theorem firstFree?_used {pool : Subnet family} {gone : List (Address family)}
    (kept : network.kept family = owner.kept family)
    (held : ∀ address, address ∈ network.held family ↔ address ∈ gone) :
    Assignment.firstFree? pool (network.used family) =
      (owner.offers pool).find? fun address => decide (address ∉ gone) := by
  unfold offers used
  rw [Assignment.firstFree?_eq_find?, List.find?_filter]
  apply Assignment.find?_congr_of_mem
  intro address probed
  simp [kept, held]

/-! ## Held addresses -/

theorem mem_held_insert_of_absent {name : String} (absent : network.endpoints[name]? = none)
    (value : Endpoint) {address : Address family} :
    address ∈ held { network with endpoints := network.endpoints.insert name value } family ↔
      value.held family = some address ∨ address ∈ network.held family := by
  simp only [mem_held, Dictionary.getElem?_insert]
  constructor
  · rintro ⟨other, endpoint, stored, holds⟩
    split at stored
    · cases stored
      exact .inl holds
    · exact .inr ⟨other, endpoint, stored, holds⟩
  · rintro (holds | ⟨other, endpoint, stored, holds⟩)
    · exact ⟨name, value, if_pos rfl, holds⟩
    · refine ⟨other, endpoint, ?_, holds⟩
      rw [if_neg]
      · exact stored
      · rintro rfl
        rw [absent] at stored
        cases stored

theorem mem_held_insert_of_same {name : String} {old value : Endpoint}
    (present : network.endpoints[name]? = some old) (same : value.held family = old.held family)
    {address : Address family} :
    address ∈ held { network with endpoints := network.endpoints.insert name value } family ↔
      address ∈ network.held family := by
  simp only [mem_held, Dictionary.getElem?_insert]
  constructor
  · rintro ⟨other, endpoint, stored, holds⟩
    split at stored
    · cases stored
      exact ⟨name, old, present, same ▸ holds⟩
    · exact ⟨other, endpoint, stored, holds⟩
  · rintro ⟨other, endpoint, stored, holds⟩
    by_cases changed : name = other
    · subst changed
      rw [present] at stored
      cases stored
      exact ⟨name, value, if_pos rfl, same.trans holds⟩
    · exact ⟨other, endpoint, (if_neg changed).trans stored, holds⟩

end Network

def Endpoint.ofOffer (pool : Subnet .v4) (address : Address .v4) (hardware : HardwareAddress) :
    Endpoint where
  hardware := hardware
  ipv4 := some ⟨address, pool.length, pool.length_le⟩
  ipv6 := none

namespace Network

variable {owner network : Network} {family : Family}

/-! ## Networks on the way to being full -/

/-- After endpoints of these names were asked for, as many of the addresses on offer are
held, from the first one on. -/
structure Filled (owner : Network) (pool : Subnet .v4) (asked : List String)
    (network : Network) : Prop where
  ipv4 : network.ipv4 = owner.ipv4
  ipv6 : network.ipv6 = owner.ipv6
  held : ∀ address, address ∈ network.held .v4 ↔
    address ∈ (owner.offers pool).take asked.length
  names : ∀ (name : String) value, network.endpoints[name]? = some value → name ∈ asked

namespace Filled

variable {pool : Subnet .v4} {asked : List String}

theorem of_empty (empty : network.endpoints = ∅) (pool : Subnet .v4) :
    Filled network pool [] network := by
  refine ⟨rfl, rfl, ?_, ?_⟩
  · intro address
    simp [mem_held, empty]
  · intro name value stored
    simp [empty] at stored

theorem subnets_eq (filled : Filled owner pool asked network) (family : Family) :
    network.subnets family = owner.subnets family := by
  unfold subnets pools
  cases family with
  | v4 => rw [filled.ipv4]
  | v6 => rw [filled.ipv6]

theorem firstFree?_eq (filled : Filled owner pool asked network) :
    Assignment.firstFree? pool (network.used .v4) = (owner.offers pool)[asked.length]? := by
  have kept : network.kept .v4 = owner.kept .v4 := by
    unfold Network.kept
    rw [filled.ipv4, filled.ipv6]
  rw [firstFree?_used kept filled.held, find?_not_mem_take (owner.offers_nodup pool)]

theorem absent (filled : Filled owner pool asked network) {name : String}
    (fresh : name ∉ asked) : network.endpoints[name]? = none := by
  cases present : network.endpoints[name]? with
  | none => rfl
  | some value => exact absurd (filled.names name value present) fresh

def next (owner : Network) (pool : Subnet .v4) (asked : List String)
    (hardware : HardwareAddress) : Except Refusal Endpoint :=
  match (owner.offers pool)[asked.length]? with
  | some address => .ok (.ofOffer pool address hardware)
  | none => .error (.poolExhausted .v4 pool)

theorem newEndpoint_eq (filled : Filled owner pool asked network) {others : List (Subnet .v4)}
    (first : owner.subnets .v4 = pool :: others) (noV6 : owner.subnets .v6 = [])
    (hardware : Option HardwareAddress) (drawn : HardwareAddress) :
    network.newEndpoint ⟨hardware, none, none⟩ drawn =
      next owner pool asked (hardware.getD drawn.localUnicast) := by
  unfold newEndpoint next
  rw [filled.subnets_eq, filled.subnets_eq, first, noV6]
  simp only [Assignment.assign, Assignment.pickFree, filled.firstFree?_eq,
    Subnet.ofParts?_length]
  cases (owner.offers pool)[asked.length]? <;> rfl

theorem insert (filled : Filled owner pool asked network) {name : String}
    (fresh : name ∉ asked) {address : Address .v4}
    (offered : (owner.offers pool)[asked.length]? = some address) (hardware : HardwareAddress) :
    Filled owner pool (asked ++ [name])
      { network with
        endpoints := network.endpoints.insert name (.ofOffer pool address hardware) } := by
  have holds : (Endpoint.ofOffer pool address hardware).held .v4 = some address := rfl
  refine ⟨filled.ipv4, filled.ipv6, ?_, ?_⟩
  · intro other
    rw [mem_held_insert_of_absent (filled.absent fresh), filled.held, holds,
      List.length_append, List.length_singleton, List.take_add_one, offered]
    simp [or_comm, eq_comm]
  · intro other endpoint stored
    rw [Dictionary.getElem?_insert] at stored
    split at stored
    · next same => simp [same]
    · exact List.mem_append_left _ (filled.names other endpoint stored)

theorem full (filled : Filled owner pool asked network)
    (exhausted : (owner.offers pool)[asked.length]? = none) (name : String) :
    Filled owner pool (asked ++ [name]) network := by
  -- One name more is asked for, but all that is on offer is held already.
  have short := List.getElem?_eq_none_iff.mp exhausted
  refine ⟨filled.ipv4, filled.ipv6, ?_, ?_⟩
  · intro address
    rw [filled.held, List.take_of_length_le short, List.take_of_length_le]
    rw [List.length_append]
    omega
  · intro other value stored
    exact List.mem_append_left _ (filled.names other value stored)

theorem setSandbox (filled : Filled owner pool asked network) {name : String} {value : Endpoint}
    (present : network.endpoints[name]? = some value) (sandbox : Option String) :
    Filled owner pool asked
      { network with endpoints := network.endpoints.insert name { value with sandbox } } := by
  refine ⟨filled.ipv4, filled.ipv6, ?_, ?_⟩
  · intro address
    have same : Endpoint.held { value with sandbox } .v4 = value.held .v4 := rfl
    exact (mem_held_insert_of_same present same).trans (filled.held address)
  · intro other endpoint stored
    rw [Dictionary.getElem?_insert] at stored
    split at stored
    · next same => exact same ▸ filled.names name value present
    · exact filled.names other endpoint stored

end Filled

end Network

def Request.keepsAddresses : Request → Bool
  | join _ | leave _ | endpointInfo _ => true
  | _ => false

namespace Registry

open Network

variable {registry : Registry} {owner network : Network} {pool : Subnet .v4}
  {others : List (Subnet .v4)} {asked : List String}

/-! ## Requests that leave the addresses to the engine -/

/-- Nothing is asked of a network but endpoints without addresses, and what changes no
address. -/
def Input.Modest (name : String) (input : Input) : Prop :=
  input.isOn name = true →
    match input.request with
    | .createEndpoint arguments =>
        ∃ hardware, readInterface arguments = .ok ⟨hardware, none, none⟩
    | request => request.keepsAddresses = true

theorem Input.network?_of_isOn {name : String} {input : Input} (on : input.isOn name = true) :
    input.request.network? = some name := by
  unfold Input.isOn at on
  rw [Bool.and_eq_true, decide_eq_true_eq] at on
  exact on.2

def Input.creates? (name : String) (input : Input) : Option String :=
  match input.request with
  | .createEndpoint arguments => if input.isOn name then some arguments.endpoint else none
  | _ => none

def creations (name : String) (inputs : List Input) : List String :=
  inputs.filterMap (Input.creates? name)

theorem Input.isOn_createEndpoint {name : String} {drawn : HardwareAddress}
    {arguments : EndpointArguments} {requested : Interface} (here : arguments.network = name)
    (read : readInterface arguments = .ok requested) :
    Input.isOn name ⟨drawn, .createEndpoint arguments⟩ = true := by
  have planned := (Asks.createEndpoint read).plan_eq
  unfold Input.isOn Request.makesCall
  simp [planned, Request.network?, here]

theorem creates?_of_read {name : String} {drawn : HardwareAddress}
    {arguments : EndpointArguments} {requested : Interface} (here : arguments.network = name)
    (read : readInterface arguments = .ok requested) :
    Input.creates? name ⟨drawn, .createEndpoint arguments⟩ = some arguments.endpoint :=
  if_pos (Input.isOn_createEndpoint here read)

def Obtains (pool : Subnet .v4) (names : String × String) (hardware : Option HardwareAddress)
    (drawn : HardwareAddress) (turn : Turn Registry (Except Failure Response)) :
    Option (Address .v4) → Prop
  | some address =>
      let given : Subnet .v4 := ⟨address, pool.length, pool.length_le⟩
      turn.answer = .ok (.endpoint ⟨some (Interface.toText
          ⟨if hardware.isNone then some drawn.localUnicast else none, some given, none⟩)⟩) ∧
        endpoint? turn.state names.1 names.2 =
          some (.ofOffer pool address (hardware.getD drawn.localUnicast))
  | none => turn.answer = .error ⟨some .noService, (Refusal.poolExhausted .v4 pool).message⟩

theorem serve_modest_createEndpoint (first : owner.subnets .v4 = pool :: others)
    (noV6 : owner.subnets .v6 = []) {arguments : EndpointArguments}
    (stored : registry[arguments.network]? = some network)
    (filled : Filled owner pool asked network) (fresh : arguments.endpoint ∉ asked)
    {hardware : Option HardwareAddress} (read : readInterface arguments = .ok ⟨hardware, none, none⟩)
    (drawn : HardwareAddress) :
    let turn := serve registry ⟨drawn, .createEndpoint arguments⟩
    Obtains pool (arguments.network, arguments.endpoint) hardware drawn turn
        (owner.offers pool)[asked.length]? ∧
      ∃ after, turn.state[arguments.network]? = some after ∧
        Filled owner pool (asked ++ [arguments.endpoint]) after := by
  have absent := filled.absent fresh
  have assigned := filled.newEndpoint_eq first noV6 hardware drawn
  unfold Filled.next at assigned
  cases offered : (owner.offers pool)[asked.length]? with
  | some address =>
      rw [offered] at assigned
      have created : Created registry drawn arguments _ network _ :=
        ⟨read, stored, absent, assigned⟩
      dsimp only
      rw [created.serve_eq]
      refine ⟨⟨?_, ?_⟩, ?_⟩
      · cases hardware <;> rfl
      · exact (endpoint?_putEndpoint stored arguments.endpoint _
          (arguments.network, arguments.endpoint)).trans (if_pos rfl)
      · exact ⟨_, getElem?_putEndpoint_self ..,
          filled.insert fresh offered (hardware.getD drawn.localUnicast)⟩
  | none =>
      rw [offered] at assigned
      have unassigned : Unassigned registry drawn arguments _ network _ :=
        ⟨read, stored, absent, assigned⟩
      dsimp only
      rw [unassigned.serve_eq]
      exact ⟨rfl, network, stored, filled.full offered _⟩

theorem Grants.filled {drawn : HardwareAddress} {request : Request} {call : Call}
    {respond : call.Reply → Response} {turn : Turn Registry call.Reply}
    (planned : request.plan = .ask call respond) (granted : Grants drawn registry call turn)
    (quiet : request.keepsAddresses = true)
    (stored : registry[call.network]? = some network) (filled : Filled owner pool asked network) :
    ∃ after, turn.state[call.network]? = some after ∧ Filled owner pool asked after := by
  have put {endpoint : String} {now : Network} {value : Endpoint}
      (storedNow : registry[call.network]? = some now)
      (present : now.endpoints[endpoint]? = some value) (sandbox : Option String) :
      ∃ after, (registry.putEndpoint call.network endpoint now
          { value with sandbox })[call.network]? = some after ∧
        Filled owner pool asked after := by
    rw [stored] at storedNow
    cases storedNow
    exact ⟨_, getElem?_putEndpoint_self .., filled.setSandbox present sandbox⟩
  cases asks_of_plan planned with
  | join =>
      cases granted with
      | joined storedNow present idle => exact put storedNow present _
  | leave =>
      cases granted with
      | left storedNow present joined => exact put storedNow present none
  | endpointInfo =>
      cases granted with
      | endpointReported storedNow present => exact ⟨network, stored, filled⟩
  | createNetwork | deleteNetwork | createEndpoint | deleteEndpoint => cases quiet

theorem serve_quiet {name : String} (stored : registry[name]? = some network)
    (filled : Filled owner pool asked network) {input : Input} (on : input.isOn name = true)
    (quiet : input.request.keepsAddresses = true) :
    ∃ after, (serve registry input).state[name]? = some after ∧
      Filled owner pool asked after := by
  cases served registry input with
  | known result planned =>
      rw [serve_of_answer planned]
      exact ⟨network, stored, filled⟩
  | granted call respond turn planned granted =>
      obtain rfl : call.network = name :=
        Option.some.inj ((Request.network?_of_ask planned).symm.trans (Input.network?_of_isOn on))
      rw [serve_of_grants planned granted]
      exact granted.filled planned quiet stored filled
  | refused call respond refusal planned refused =>
      rw [serve_of_refuses planned refused]
      exact ⟨network, stored, filled⟩

theorem serve_modest (first : owner.subnets .v4 = pool :: others)
    (noV6 : owner.subnets .v6 = []) {name : String} (stored : registry[name]? = some network)
    (filled : Filled owner pool asked network) {input : Input} (modest : input.Modest name)
    (distinct : (asked ++ (input.creates? name).toList).Nodup) :
    ∃ after, (serve registry input).state[name]? = some after ∧
      Filled owner pool (asked ++ (input.creates? name).toList) after := by
  obtain ⟨drawn, request⟩ := input
  cases on : Input.isOn name ⟨drawn, request⟩ with
  | false =>
      have nothing : Input.creates? name ⟨drawn, request⟩ = none := by
        unfold Input.creates?
        split
        · rw [on]
          rfl
        · rfl
      rw [nothing, Option.toList_none, List.append_nil]
      exact ⟨network, (serve_frame on).trans stored, filled⟩
  | true =>
      have limited := modest on
      cases request with
      | createEndpoint arguments =>
          obtain ⟨hardware, read⟩ := limited
          obtain rfl : arguments.network = name := Option.some.inj (Input.network?_of_isOn on)
          rw [creates?_of_read rfl read] at distinct ⊢
          have fresh : arguments.endpoint ∉ asked := by
            intro member
            exact (List.nodup_append.mp distinct).2.2 _ member _ List.mem_cons_self rfl
          exact (serve_modest_createEndpoint first noV6 stored filled fresh read drawn).2
      | join | leave | endpointInfo =>
          rw [Input.creates?, Option.toList_none, List.append_nil]
          exact serve_quiet stored filled on limited
      | _ => cases limited

theorem run_modest (first : owner.subnets .v4 = pool :: others)
    (noV6 : owner.subnets .v6 = []) {name : String} (stored : registry[name]? = some network)
    (filled : Filled owner pool asked network) {inputs : List Input}
    (modest : ∀ input ∈ inputs, input.Modest name)
    (distinct : (asked ++ creations name inputs).Nodup) :
    ∃ after, (run registry inputs)[name]? = some after ∧
      Filled owner pool (asked ++ creations name inputs) after := by
  -- What is carried along the session is that the first addresses on offer are held.
  induction inputs generalizing registry network asked with
  | nil =>
      refine ⟨network, stored, ?_⟩
      simpa [creations] using filled
  | cons input inputs ih =>
      have cut : creations name (input :: inputs) =
          (input.creates? name).toList ++ creations name inputs := by
        unfold creations
        rw [List.filterMap_cons]
        cases input.creates? name <;> rfl
      rw [cut, ← List.append_assoc] at distinct ⊢
      obtain ⟨next, storedNext, filledNext⟩ :=
        serve_modest first noV6 stored filled (modest input List.mem_cons_self)
          (List.nodup_append.mp distinct).1
      exact ih storedNext filledNext (fun other member => modest other (List.mem_cons_of_mem _ member))
        distinct

/-- The endpoints of a new network get the addresses on offer in their order, each once and
none left out; those that come later get none. -/
theorem addresses_given_in_order {drawn : HardwareAddress}
    {arguments : NetworkArguments Json}
    (made : (serve registry ⟨drawn, .createNetwork arguments⟩).answer.isOk = true)
    (stored : (serve registry ⟨drawn, .createNetwork arguments⟩).state[arguments.network]? =
      some network)
    (first : network.subnets .v4 = pool :: others) (noV6 : network.subnets .v6 = [])
    {past rest : List Input} {again : HardwareAddress} {wish : EndpointArguments}
    {hardware : Option HardwareAddress} (here : wish.network = arguments.network)
    (read : readInterface wish = .ok ⟨hardware, none, none⟩)
    (modest : ∀ input ∈ past ++ ⟨again, .createEndpoint wish⟩ :: rest,
      input.Modest arguments.network)
    (distinct : (creations arguments.network
      (past ++ ⟨again, .createEndpoint wish⟩ :: rest)).Nodup) :
    Obtains pool (wish.network, wish.endpoint) hardware again
      (serve (run (serve registry ⟨drawn, .createNetwork arguments⟩).state past)
        ⟨again, .createEndpoint wish⟩)
      (network.offers pool)[(creations arguments.network past).length]? := by
  have empty : network.endpoints = ∅ := by
    obtain ⟨ipv4, ipv6, created⟩ := networkCreated_of_isOk made
    rw [created.stored] at stored
    cases stored
    rfl
  have parts : creations arguments.network (past ++ ⟨again, .createEndpoint wish⟩ :: rest) =
      creations arguments.network past ++ wish.endpoint :: creations arguments.network rest := by
    unfold creations
    rw [List.filterMap_append, List.filterMap_cons_some (creates?_of_read here read)]
  rw [parts, List.nodup_append] at distinct
  have fresh : wish.endpoint ∉ creations arguments.network past := by
    intro member
    exact distinct.2.2 _ member _ List.mem_cons_self rfl
  obtain ⟨now, storedNow, filled⟩ := run_modest first noV6 stored (Filled.of_empty empty pool)
    (fun input member => modest input (List.mem_append_left _ member)) distinct.1
  rw [List.nil_append] at filled
  rw [← here] at storedNow filled fresh ⊢
  exact (serve_modest_createEndpoint first noV6 storedNow filled fresh read again).1

def narrow : Network where
  ipv4 := [⟨"", ⟨.v4, .ofNumbers .v4 0x0a000007 30⟩,
    some ⟨.v4, .ofNumbers .v4 0x0a000005 30⟩, ∅⟩]
  ipv6 := []

theorem narrow_given_in_order :
    let made := serve ∅ ⟨default, .createNetwork
      { network := "blue", ipv4 := [{ pool := "10.0.0.7/30", gateway := "10.0.0.5/30" }] }⟩
    let between : List Input :=
      [⟨default, .join { network := "blue", endpoint := "one", sandbox := "/run/one" }⟩,
        .makeNetwork "red" "10.0.0.0/24", .makeEndpoint "red" "two"]
    (serve made.state (.makeEndpoint "blue" "one")).answer =
        .ok (.endpoint ⟨some { ipv4 := "10.0.0.6/30", hardware := "02:00:00:00:00:00" }⟩) ∧
      (serve (run made.state (.makeEndpoint "blue" "one" :: between))
        (.makeEndpoint "blue" "two")).answer =
        .error ⟨some .noService, "no IPv4 addresses available in 10.0.0.7/30"⟩ := by
  intro made between
  have created : made.answer.isOk = true := rfl
  have stored : made.state["blue"]? = some narrow := rfl
  have read (name : String) : readInterface { network := "blue", endpoint := name } =
      .ok ⟨none, none, none⟩ := rfl
  have modest : ∀ input ∈ .makeEndpoint "blue" "one" :: between ++
      [.makeEndpoint "blue" "two"], input.Modest "blue" := by
    simp only [between, List.cons_append, List.nil_append, List.forall_mem_cons]
    refine ⟨fun _ => ⟨none, rfl⟩, fun _ => rfl, ?_, ?_, fun _ => ⟨none, rfl⟩, by simp⟩
    · intro on
      cases on
    · intro on
      cases on
  have distinct : (creations "blue" (.makeEndpoint "blue" "one" :: between ++
      [.makeEndpoint "blue" "two"])).Nodup := by
    change ["one", "two"].Nodup
    decide
  constructor
  · have given := @addresses_given_in_order _ _ _ _ _ _ created stored rfl rfl []
      (between ++ [Input.makeEndpoint "blue" "two"]) default _ _ rfl (read "one") modest distinct
    exact given.1
  · exact addresses_given_in_order created stored rfl rfl rfl (read "two") modest distinct

end Registry

end NetworkPlugin
