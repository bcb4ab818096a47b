import NetworkPlugin.Proofs.Registry.Occupancy

/-!
# Requests that commute

Requests for different endpoints of a network can change places: each is answered as
before and the registry is the same in the end.  A request sets its own endpoint and leaves
the others, and all that it looks at besides are the pools, unless it makes an endpoint,
which must not be given an address that the other request takes or gives back.
-/

namespace NetworkPlugin

/-! ## Requests for an endpoint -/

def Request.endpointNames? : Request → Option (String × String)
  | createEndpoint arguments => some (arguments.network, arguments.endpoint)
  | deleteEndpoint arguments => some (arguments.network, arguments.endpoint)
  | endpointInfo arguments => some (arguments.network, arguments.endpoint)
  | join arguments => some (arguments.network, arguments.endpoint)
  | leave arguments => some (arguments.network, arguments.endpoint)
  | _ => none

def Request.requested? : Request → Option Interface
  | createEndpoint arguments => (Interface.ofText? arguments.interface).toOption
  | _ => none

def Request.needsEndpoint : Request → Bool
  | deleteEndpoint _ | endpointInfo _ | join _ | leave _ => true
  | _ => false

def Call.endpointNames? : Call → Option (String × String)
  | createEndpoint network endpoint .. => some (network, endpoint)
  | deleteEndpoint network endpoint => some (network, endpoint)
  | endpointInfo network endpoint => some (network, endpoint)
  | join network endpoint .. => some (network, endpoint)
  | leave network endpoint => some (network, endpoint)
  | _ => none

def Call.requested? : Call → Option Interface
  | createEndpoint _ _ requested _ => some requested
  | _ => none

theorem Request.endpointNames?_of_ask {request : Request} {call : Call}
    {respond : call.Reply → Response} (planned : request.plan = .ask call respond) :
    request.endpointNames? = call.endpointNames? := by
  cases asks_of_plan planned <;> rfl

theorem Request.requested?_of_ask {request : Request} {call : Call}
    {respond : call.Reply → Response} (planned : request.plan = .ask call respond) :
    request.requested? = call.requested? := by
  cases asks_of_plan planned with
  | createEndpoint read =>
      rw [readInterface, Except.mapError_eq_ok] at read
      simp only [requested?, read]
      rfl
  | createNetwork | deleteNetwork | deleteEndpoint | endpointInfo | join | leave => rfl

theorem Call.network_eq_of_names {call : Call} {names : String × String}
    (on : call.endpointNames? = some names) : call.network = names.1 := by
  cases call <;> cases on <;> rfl

theorem Call.eq_of_knownEndpoint? {call : Call} {names : String × String} {endpoint : String}
    (on : call.endpointNames? = some names) (needed : call.knownEndpoint? = some endpoint) :
    endpoint = names.2 := by
  cases call <;> cases on <;> cases needed <;> rfl

def Interface.Apart (interface other : Interface) : Prop :=
  ∀ family (one another : Subnet family), interface.address family = some one →
    other.address family = some another → one.address ≠ another.address

/-! ## Setting one endpoint -/

namespace Network

variable {owner after : Network} {endpoint : String}

def setEndpoint (owner : Network) (endpoint : String) (value : Option Endpoint) : Network :=
  { owner with endpoints :=
      match value with
      | some value => owner.endpoints.insert endpoint value
      | none => owner.endpoints.erase endpoint }

theorem getElem?_setEndpoint (owner : Network) (endpoint other : String)
    (value : Option Endpoint) :
    (owner.setEndpoint endpoint value).endpoints[other]? =
      if endpoint = other then value else owner.endpoints[other]? := by
  cases value with
  | some value => exact Dictionary.getElem?_insert _ _ _ _
  | none => exact Dictionary.getElem?_erase _ _ _

theorem eq_of_endpoints {network other : Network} (ipv4 : network.ipv4 = other.ipv4)
    (ipv6 : network.ipv6 = other.ipv6)
    (endpoints : ∀ name : String, network.endpoints[name]? = other.endpoints[name]?) :
    network = other := by
  obtain ⟨_, _, _⟩ := network
  obtain ⟨_, _, _⟩ := other
  cases ipv4
  cases ipv6
  congr 1
  exact Std.ExtTreeMap.ext_getElem? endpoints

theorem setEndpoint_self (owner : Network) (endpoint : String) :
    owner.setEndpoint endpoint owner.endpoints[endpoint]? = owner := by
  refine eq_of_endpoints ?ipv4 ?ipv6 fun name => ?endpoints
  case ipv4 | ipv6 => rfl
  rw [getElem?_setEndpoint]
  split
  · next same => rw [same]
  · rfl

theorem setEndpoint_comm {one other : String} (apart : one ≠ other) (owner : Network)
    (first second : Option Endpoint) :
    (owner.setEndpoint one first).setEndpoint other second =
      (owner.setEndpoint other second).setEndpoint one first := by
  refine eq_of_endpoints ?ipv4 ?ipv6 fun name => ?endpoints
  case ipv4 | ipv6 => rfl
  simp only [getElem?_setEndpoint]
  by_cases isOne : one = name
  · subst isOne
    simp [Ne.symm apart]
  · simp [isOne]

/-- Networks that look the same to whoever asks for one endpoint. -/
structure LooksAs (owner after : Network) (endpoint : String) : Prop where
  ipv4 : owner.ipv4 = after.ipv4
  ipv6 : owner.ipv6 = after.ipv6
  endpoint : owner.endpoints[endpoint]? = after.endpoints[endpoint]?

theorem LooksAs.refl (owner : Network) (endpoint : String) : owner.LooksAs owner endpoint :=
  ⟨rfl, rfl, rfl⟩

theorem looksAs_setEndpoint {other : String} (apart : other ≠ endpoint) (owner : Network)
    (value : Option Endpoint) : owner.LooksAs (owner.setEndpoint other value) endpoint :=
  ⟨rfl, rfl, by rw [getElem?_setEndpoint, if_neg apart]⟩

theorem LooksAs.attachment (looks : owner.LooksAs after endpoint) (name : String) :
    owner.attachment name = after.attachment name := by
  simp only [Network.attachment, gateway?, pools, looks.ipv4, looks.ipv6]

/-! ## Requested addresses -/

/-- An interface with an address of every family in which the network has a pool. -/
def Supplied (owner : Network) (requested : Interface) : Prop :=
  ∀ family, owner.subnets family ≠ [] → (requested.address family).isSome = true

variable {requested : Interface} {drawn : HardwareAddress} {value : Endpoint}

theorem Supplied.newEndpoint_congr (supplied : owner.Supplied requested)
    (ipv4 : owner.ipv4 = after.ipv4) (ipv6 : owner.ipv6 = after.ipv6)
    (used : ∀ family given, requested.address family = some given →
      (given.address ∈ owner.used family ↔ given.address ∈ after.used family))
    (drawn : HardwareAddress) :
    owner.newEndpoint requested drawn = after.newEndpoint requested drawn := by
  have subnets (family : Family) : owner.subnets family = after.subnets family := by
    cases family <;> simp only [Network.subnets, pools, ipv4, ipv6]
  have assigned (family : Family) :
      Assignment.assign (owner.subnets family) (owner.used family) (requested.address family) =
        Assignment.assign (after.subnets family) (after.used family)
          (requested.address family) := by
    rw [← subnets]
    cases asked : requested.address family with
    | some given =>
        simp only [Assignment.assign, Assignment.checkRequested, used family given asked]
    | none =>
        have empty : owner.subnets family = [] := by
          by_contra nonempty
          have set := supplied family nonempty
          simp [asked] at set
        rw [empty]
        rfl
  have first := assigned .v4
  have second := assigned .v6
  simp only [Interface.address] at first second
  simp only [newEndpoint, first, second]

theorem Supplied.held (supplied : owner.Supplied requested)
    (made : owner.newEndpoint requested drawn = .ok value) (family : Family) :
    value.address family = requested.address family := by
  have assigned := assigns_of_newEndpoint made family
  have set := supplied family
  generalize requested.address family = asked at assigned set
  generalize value.address family = got at assigned
  cases assigned with
  | asRequested first host free => rfl
  | picked listed found => cases set (by simp [listed])
  | withoutPools empty => rfl

end Network

namespace Registry

variable {drawn : HardwareAddress} {one other : Registry} {owner after : Network}
  {names : String × String}

theorem insert_setEndpoint_self {registry : Registry} {network : String}
    (stored : registry[network]? = some owner) (endpoint : String) :
    registry.insert network (owner.setEndpoint endpoint owner.endpoints[endpoint]?) =
      registry := by
  rw [owner.setEndpoint_self]
  exact Dictionary.insert_of_getElem? stored

/-- A turn on an endpoint, carried over to a registry that looks the same to it. -/
theorem Grants.transfer {call : Call} {turn : Turn Registry call.Reply}
    (granted : Grants drawn one call turn) (on : call.endpointNames? = some names)
    (stored : one[names.1]? = some owner) (storedToo : other[names.1]? = some after)
    (looks : owner.LooksAs after names.2)
    (assigned : ∀ requested, call.requested? = some requested →
      owner.newEndpoint requested drawn = after.newEndpoint requested drawn) :
    ∃ value, turn.state = one.insert names.1 (owner.setEndpoint names.2 value) ∧
      Grants drawn other call
        ⟨turn.answer, turn.events, other.insert names.1 (after.setEndpoint names.2 value)⟩ := by
  cases granted with
  | networkCreated | networkDeleted => cases on
  | endpointReported found present =>
      cases on
      refine ⟨owner.endpoints[_]?, (insert_setEndpoint_self stored _).symm, ?_⟩
      cases found.symm.trans stored
      rw [looks.endpoint, insert_setEndpoint_self storedToo]
      exact .endpointReported storedToo (looks.endpoint.symm.trans present)
  | endpointCreated found absent made =>
      cases on
      cases found.symm.trans stored
      rw [assigned _ rfl] at made
      exact ⟨some _, rfl, .endpointCreated storedToo (looks.endpoint.symm.trans absent) made⟩
  | endpointDeleted found present idle =>
      cases on
      cases found.symm.trans stored
      exact ⟨none, rfl, .endpointDeleted storedToo (looks.endpoint.symm.trans present) idle⟩
  | joined found present idle =>
      cases on
      cases found.symm.trans stored
      rw [looks.attachment]
      exact ⟨some _, rfl, .joined storedToo (looks.endpoint.symm.trans present) idle⟩
  | left found present joined =>
      cases on
      cases found.symm.trans stored
      exact ⟨some _, rfl, .left storedToo (looks.endpoint.symm.trans present) joined⟩

theorem Refuses.transfer {call : Call} {refusal : Refusal}
    (refused : Refuses drawn one call refusal) (on : call.endpointNames? = some names)
    (stored : one[names.1]? = some owner) (storedToo : other[names.1]? = some after)
    (looks : owner.LooksAs after names.2)
    (assigned : ∀ requested, call.requested? = some requested →
      owner.newEndpoint requested drawn = after.newEndpoint requested drawn) :
    Refuses drawn other call refusal := by
  cases refused with
  | networkExists | networkInUse => cases on
  | networkUnknown needed absent =>
      rw [Call.network_eq_of_names on, stored] at absent
      cases absent
  | endpointExists found present =>
      cases on
      cases found.symm.trans stored
      exact .endpointExists storedToo (looks.endpoint.symm.trans present)
  | notAssigned found absent failed =>
      cases on
      cases found.symm.trans stored
      rw [assigned _ rfl] at failed
      exact .notAssigned storedToo (looks.endpoint.symm.trans absent) failed
  | endpointUnknown needed found absent =>
      rw [Call.network_eq_of_names on, stored] at found
      cases found
      obtain rfl := Call.eq_of_knownEndpoint? on needed
      refine .endpointUnknown needed ?_ (looks.endpoint.symm.trans absent)
      rw [Call.network_eq_of_names on, storedToo]
  | stillJoined found present joined =>
      cases on
      cases found.symm.trans stored
      exact .stillJoined storedToo (looks.endpoint.symm.trans present) joined
  | alreadyJoined found present joined =>
      cases on
      cases found.symm.trans stored
      exact .alreadyJoined storedToo (looks.endpoint.symm.trans present) joined
  | notJoined found present idle =>
      cases on
      cases found.symm.trans stored
      exact .notJoined storedToo (looks.endpoint.symm.trans present) idle

theorem endpoint?_insert_setEndpoint (registry : Registry) (owner : Network)
    (network endpoint : String) (value : Option Endpoint) :
    endpoint? (registry.insert network (owner.setEndpoint endpoint value)) network endpoint =
      value := by
  simp [endpoint?, Network.getElem?_setEndpoint]

theorem serve_transfer {input : Input} (on : input.request.endpointNames? = some names)
    (stored : one[names.1]? = some owner) (storedToo : other[names.1]? = some after)
    (looks : owner.LooksAs after names.2)
    (assigned : ∀ requested, input.request.requested? = some requested →
      owner.newEndpoint requested input.drawn = after.newEndpoint requested input.drawn) :
    (serve other input).answer = (serve one input).answer ∧
    (serve one input).state = one.insert names.1 (owner.setEndpoint names.2
      (endpoint? (serve one input).state names.1 names.2)) ∧
    (serve other input).state = other.insert names.1 (after.setEndpoint names.2
      (endpoint? (serve one input).state names.1 names.2)) := by
  suffices told : (serve other input).answer = (serve one input).answer ∧ ∃ value,
      (serve one input).state = one.insert names.1 (owner.setEndpoint names.2 value) ∧
      (serve other input).state = other.insert names.1 (after.setEndpoint names.2 value) by
    obtain ⟨answer, value, same, sameToo⟩ := told
    rw [same, endpoint?_insert_setEndpoint]
    exact ⟨answer, rfl, sameToo⟩
  have kept : ∃ value, one = one.insert names.1 (owner.setEndpoint names.2 value) ∧
      other = other.insert names.1 (after.setEndpoint names.2 value) := by
    refine ⟨owner.endpoints[names.2]?, (insert_setEndpoint_self stored _).symm, ?_⟩
    rw [looks.endpoint, insert_setEndpoint_self storedToo]
  cases served one input with
  | known result planned =>
      rw [serve_of_answer planned, serve_of_answer planned]
      exact ⟨rfl, kept⟩
  | granted call respond turn planned granted =>
      rw [Request.endpointNames?_of_ask planned] at on
      rw [Request.requested?_of_ask planned] at assigned
      obtain ⟨value, same, grantedToo⟩ := granted.transfer on stored storedToo looks assigned
      rw [serve_of_grants planned granted, serve_of_grants planned grantedToo]
      exact ⟨rfl, value, same, rfl⟩
  | refused call respond refusal planned refused =>
      rw [Request.endpointNames?_of_ask planned] at on
      rw [Request.requested?_of_ask planned] at assigned
      have refusedToo := refused.transfer on stored storedToo looks assigned
      rw [serve_of_refuses planned refused, serve_of_refuses planned refusedToo]
      exact ⟨rfl, kept⟩

theorem serve_of_missing {registry : Registry} {input : Input}
    (on : input.request.endpointNames? = some names) (missing : registry[names.1]? = none) :
    (serve registry input).state = registry := by
  cases served registry input with
  | known result planned => rw [serve_of_answer planned]
  | refused call respond refusal planned refused => rw [serve_of_refuses planned refused]
  | granted call respond turn planned granted =>
      rw [Request.endpointNames?_of_ask planned] at on
      cases granted with
      | networkCreated | networkDeleted => cases on
      | endpointReported stored | endpointCreated stored | endpointDeleted stored
      | joined stored | left stored =>
          cases on
          cases stored.symm.trans missing

/-! ## Two requests -/

variable {registry : Registry} {network : String}

/-- A request by which no other one for a new endpoint on the network is given anything
else. -/
def Spares (registry : Registry) (network : String) (first second : Input) : Prop :=
  ∀ owner after requested, registry[network]? = some owner →
    (serve registry first).state[network]? = some after →
    second.request.requested? = some requested →
    owner.newEndpoint requested second.drawn = after.newEndpoint requested second.drawn

theorem serve_setEndpoint {input : Input} (on : input.request.endpointNames? = some names)
    (stored : registry[names.1]? = some owner) :
    (serve registry input).state = registry.insert names.1 (owner.setEndpoint names.2
      (endpoint? (serve registry input).state names.1 names.2)) :=
  (serve_transfer on stored stored (.refl owner names.2) fun _ _ => rfl).2.1

theorem serve_after {first second : Input} {one other : String}
    (on : first.request.endpointNames? = some (network, one))
    (onToo : second.request.endpointNames? = some (network, other)) (apart : one ≠ other)
    (spares : Spares registry network first second)
    (stored : registry[network]? = some owner) :
    (serve (serve registry first).state second).answer = (serve registry second).answer ∧
    (serve (serve registry first).state second).state =
      registry.insert network
        ((owner.setEndpoint one (endpoint? (serve registry first).state network one)).setEndpoint
          other (endpoint? (serve registry second).state network other)) := by
  have changed := serve_setEndpoint on stored
  have storedToo : (serve registry first).state[network]? = some (owner.setEndpoint one
      (endpoint? (serve registry first).state network one)) := by
    conv => lhs; rw [changed]
    exact Std.ExtTreeMap.getElem?_insert_self
  obtain ⟨answer, -, same⟩ := serve_transfer onToo stored storedToo
    (Network.looksAs_setEndpoint apart owner _) fun requested asked =>
      spares owner _ requested stored storedToo asked
  refine ⟨answer, same.trans ?_⟩
  conv => lhs; arg 1; rw [changed]
  exact Dictionary.insert_insert _ _ _ _

/-- Requests for two endpoints that spare each other can change places. -/
theorem serve_comm {first second : Input} {one other : String}
    (on : first.request.endpointNames? = some (network, one))
    (onToo : second.request.endpointNames? = some (network, other)) (apart : one ≠ other)
    (spares : Spares registry network first second)
    (sparesToo : Spares registry network second first) :
    (serve (serve registry second).state first).answer = (serve registry first).answer ∧
      (serve (serve registry first).state second).answer = (serve registry second).answer ∧
      (serve (serve registry first).state second).state =
        (serve (serve registry second).state first).state := by
  cases stored : registry[network]? with
  | none =>
      rw [serve_of_missing on stored, serve_of_missing onToo stored]
      exact ⟨rfl, rfl, (serve_of_missing on stored).symm⟩
  | some owner =>
      obtain ⟨answer, state⟩ := serve_after on onToo apart spares stored
      obtain ⟨answerToo, stateToo⟩ := serve_after onToo on (Ne.symm apart) sparesToo stored
      refine ⟨answerToo, answer, ?_⟩
      rw [state, stateToo, Network.setEndpoint_comm apart]

/-! ## Requests that spare each other -/

theorem spares_of_needsEndpoint {first second : Input}
    (there : second.request.requested? = none) : Spares registry network first second := by
  intro owner after requested stored storedToo asked
  rw [there] at asked
  cases asked

theorem spares_of_keepsAddresses {first : Input} (keeps : first.request.keepsAddresses = true)
    (second : Input) : Spares registry network first second := by
  intro owner after requested stored storedToo asked
  have spares : first.Spares network (serve registry first).answer ∨
      first.request.operation.readsOnly = true := by
    cases request : first.request with
    | join arguments => exact .inl (.inl (by rw [request]; rfl))
    | leave arguments => exact .inl (.inr (.inl (by rw [request]; rfl)))
    | endpointInfo arguments => exact .inr rfl
    | _ =>
        rw [request] at keeps
        cases keeps
  rcases spares with spares | reads
  · obtain ⟨other, found, offers⟩ := serve_offersAs spares stored
    cases found.symm.trans storedToo
    exact (offers.newEndpoint_eq requested second.drawn).symm
  · rw [serve_unchanged (.inr reads), stored] at storedToo
    cases storedToo
    rfl

theorem spares_of_supplied {arguments : EndpointArguments} {second : Input}
    (supplied : ∀ owner requested, registry[arguments.network]? = some owner →
      Interface.ofText? arguments.interface = .ok requested → owner.Supplied requested)
    (suppliedToo : ∀ owner wanted, registry[arguments.network]? = some owner →
      second.request.requested? = some wanted → owner.Supplied wanted)
    (apart : ∀ requested wanted, Interface.ofText? arguments.interface = .ok requested →
      second.request.requested? = some wanted → requested.Apart wanted) :
    Spares registry arguments.network ⟨drawn, .createEndpoint arguments⟩ second := by
  intro owner after wanted stored storedToo asked
  cases succeeded : (serve registry ⟨drawn, .createEndpoint arguments⟩).answer.isOk with
  | false =>
      rw [serve_unchanged (.inl succeeded), stored] at storedToo
      cases storedToo
      rfl
  | true =>
      obtain ⟨requested, found, value, created⟩ := created_of_isOk succeeded
      cases created.stored.symm.trans stored
      have read := created.read
      rw [readInterface, Except.mapError_eq_ok] at read
      rw [created.serve_eq, getElem?_putEndpoint_self] at storedToo
      cases storedToo
      refine (suppliedToo owner wanted stored asked).newEndpoint_congr ?ipv4 ?ipv6 ?used _
      case ipv4 | ipv6 => rfl
      case used =>
        intro family given sought
        have free : value.held family ≠ some given.address := by
          intro holds
          rw [Endpoint.held, (supplied owner requested stored read).held created.made] at holds
          obtain ⟨taken, got, same⟩ := Option.map_eq_some_iff.mp holds
          exact apart requested wanted read asked family taken given got sought same
        simp only [Network.used, List.mem_append,
          Network.mem_held_insert_of_absent created.absent, free, false_or]
        rfl

/-! ## Independent requests -/

/-- Requests for different endpoints of a network of which neither takes an address that the
other one might get, or gives one back that it might get. -/
inductive Independent (registry : Registry) (network : String) : Request → Request → Prop
  | present {one other : Request} (there : one.needsEndpoint = true)
      (thereToo : other.needsEndpoint = true) : Independent registry network one other
  | created {arguments : EndpointArguments} {other : Request}
      (keeps : other.keepsAddresses = true) :
      Independent registry network (.createEndpoint arguments) other
  | kept {one : Request} {arguments : EndpointArguments} (keeps : one.keepsAddresses = true) :
      Independent registry network one (.createEndpoint arguments)
  | supplied {arguments others : EndpointArguments}
      (supplied : ∀ owner requested, registry[network]? = some owner →
        Interface.ofText? arguments.interface = .ok requested → owner.Supplied requested)
      (suppliedToo : ∀ owner wanted, registry[network]? = some owner →
        Interface.ofText? others.interface = .ok wanted → owner.Supplied wanted)
      (apart : ∀ requested wanted, Interface.ofText? arguments.interface = .ok requested →
        Interface.ofText? others.interface = .ok wanted → requested.Apart wanted) :
      Independent registry network (.createEndpoint arguments) (.createEndpoint others)

theorem requested?_eq_some {arguments : EndpointArguments} {requested : Interface} :
    (Request.createEndpoint arguments).requested? = some requested ↔
      Interface.ofText? arguments.interface = .ok requested := by
  cases read : Interface.ofText? arguments.interface <;>
    simp [Request.requested?, read, Except.toOption]

theorem Independent.symm {one other : Request}
    (independent : Independent registry network one other) :
    Independent registry network other one := by
  cases independent with
  | present there thereToo => exact .present thereToo there
  | created keeps => exact .kept keeps
  | kept keeps => exact .created keeps
  | supplied supplied suppliedToo apart =>
      refine .supplied suppliedToo supplied ?_
      intro requested wanted read readToo family one another asked askedToo
      exact (apart wanted requested readToo read family another one askedToo asked).symm

theorem Independent.spares {first second : Input} {endpoint : String}
    (independent : Independent registry network first.request second.request)
    (on : first.request.endpointNames? = some (network, endpoint)) :
    Spares registry network first second := by
  obtain ⟨drawn, request⟩ := first
  obtain ⟨drawnToo, requestToo⟩ := second
  cases independent with
  | present there thereToo =>
      apply spares_of_needsEndpoint
      cases requestToo <;> first | rfl | cases thereToo
  | created keeps =>
      apply spares_of_needsEndpoint
      cases requestToo <;> first | rfl | cases keeps
  | kept keeps => exact spares_of_keepsAddresses keeps _
  | supplied supplied suppliedToo apart =>
      cases on
      refine spares_of_supplied supplied ?_ ?_
      · exact fun owner wanted stored asked =>
          suppliedToo owner wanted stored (requested?_eq_some.mp asked)
      · exact fun requested wanted read asked =>
          apart requested wanted read (requested?_eq_some.mp asked)

/-- Independent requests for two endpoints of a network can change places: both are answered
as before, be it with a failure, and the registry is the same after them. -/
theorem independent_requests_commute {first second : Input} {one other : String}
    (on : first.request.endpointNames? = some (network, one))
    (onToo : second.request.endpointNames? = some (network, other)) (apart : one ≠ other)
    (independent : Independent registry network first.request second.request) :
    (serve (serve registry second).state first).answer = (serve registry first).answer ∧
      (serve (serve registry first).state second).answer = (serve registry second).answer ∧
      (serve (serve registry first).state second).state =
        (serve (serve registry second).state first).state :=
  serve_comm on onToo apart (independent.spares on) (independent.symm.spares onToo)

/-- A request that is refused for its second address has not taken the first one. -/
theorem refused_endpoint_commutes :
    let registry := run ∅ [⟨default, .createNetwork
      { network := "blue", ipv4 := [{ pool := "10.0.0.0/29" }],
        ipv6 := [{ pool := "fd00::/64", gateway := "fd00::1/64" }] }⟩]
    let first : Input := ⟨default, .createEndpoint
      { network := "blue", endpoint := "one",
        interface := some { ipv4 := "10.0.0.2/29", ipv6 := "fd00::2/64" } }⟩
    let second : Input := ⟨default, .createEndpoint
      { network := "blue", endpoint := "two",
        interface := some { ipv4 := "10.0.0.3/29", ipv6 := "fd00::1/64" } }⟩
    Independent registry "blue" first.request second.request ∧
    (serve registry second).answer.isOk = false ∧
    (serve (serve registry second).state first).answer = (serve registry first).answer ∧
    (serve (serve registry first).state second).answer = (serve registry second).answer ∧
    (serve (serve registry first).state second).state =
      (serve (serve registry second).state first).state := by
  intro registry first second
  have read : Interface.ofText? (some { ipv4 := "10.0.0.2/29", ipv6 := "fd00::2/64" }) = .ok
      { ipv4 := some (.ofNumbers .v4 0x0a000002 29),
        ipv6 := some (.ofNumbers .v6 (0xfd00 <<< 112 + 2) 64) } := rfl
  have readToo : Interface.ofText? (some { ipv4 := "10.0.0.3/29", ipv6 := "fd00::1/64" }) = .ok
      { ipv4 := some (.ofNumbers .v4 0x0a000003 29),
        ipv6 := some (.ofNumbers .v6 (0xfd00 <<< 112 + 1) 64) } := rfl
  have independent : Independent registry "blue" first.request second.request := by
    refine .supplied ?supplied ?suppliedToo ?apart
    case supplied =>
      intro owner requested stored same family nonempty
      cases read.symm.trans same
      cases family <;> rfl
    case suppliedToo =>
      intro owner requested stored same family nonempty
      cases readToo.symm.trans same
      cases family <;> rfl
    case apart =>
      intro requested wanted same sameToo family one another asked askedToo
      cases read.symm.trans same
      cases readToo.symm.trans sameToo
      cases family <;> cases asked <;> cases askedToo <;> decide
  have refused : (serve registry second).answer.isOk = false := by
    dsimp only [registry, second]
    rfl
  exact ⟨independent, refused,
    independent_requests_commute rfl rfl (by decide) independent⟩

end Registry

end NetworkPlugin
