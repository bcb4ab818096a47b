import NetworkPlugin.Proofs.Past
import NetworkPlugin.Proofs.Pool.Blame
import NetworkPlugin.Proofs.Registry.AddressSafety
import NetworkPlugin.Proofs.Registry.Atomicity
import NetworkPlugin.Proofs.Registry.Filling
import NetworkPlugin.Proofs.Registry.Lifecycle

/-!
# Occupied addresses

Whether an address can be had is settled by what was asked and answered so far.  It is in
use if the pools that the network was last made with keep it, or if an endpoint got it,
as requested or by assignment, that has not been deleted since.  What carries the proof is
that the registry and the past agree on who holds what, request by request.
-/

namespace NetworkPlugin

/-! ## Requests and answers -/

def EndpointArguments.Wants (arguments : EndpointArguments) {family : Family}
    (address : Address family) : Prop :=
  ∃ requested given, Interface.ofText? arguments.interface = .ok requested ∧
    requested.address family = some given ∧ given.address = address

def EndpointArguments.at (network endpoint ipv4 : String) : EndpointArguments :=
  { network, endpoint, interface := some { ipv4 } }

def Response.Gives (response : Response) {family : Family} (address : Address family) : Prop :=
  ∃ text answered given, response = .endpoint ⟨some text⟩ ∧
    Interface.ofText text = .ok answered ∧ answered.address family = some given ∧
    given.address = address

/-- The gateway of an entry, or one of its auxiliary addresses. -/
def PoolEntry.Keeps (entry : PoolEntry) {family : Family} (address : Address family) : Prop :=
  (∃ gateway : Subnet family, AnySubnet.parse? entry.gateway = some ⟨family, gateway⟩ ∧
    gateway.address = address) ∨
  ∃ name text : String, entry.auxiliary[name]? = some text ∧
    AnyAddress.parse? text = some ⟨family, address⟩

/-! ## The past -/

namespace Past

/-- The endpoint of these names got an address and has not been deleted since. -/
def Holds (past : Past) (names : String × String) {family : Family}
    (address : Address family) : Prop :=
  ∃ before arguments response after,
    past = before ++ (.createEndpoint arguments, .ok response) :: after ∧
    (arguments.network, arguments.endpoint) = names ∧
    (arguments.Wants address ∨ response.Gives address) ∧
    ∀ answer, (.deleteEndpoint ⟨names.1, names.2⟩, .ok answer) ∉ after

/-- The pools that a network was last made with keep the address, or an endpoint on it
holds the address. -/
def Occupies (past : Past) (name : String) {family : Family} (address : Address family) :
    Prop :=
  (∃ arguments entry, lastNetwork? name past = some arguments ∧
    entry ∈ arguments.ipv4 ++ arguments.ipv6 ∧ entry.Keeps address) ∨
  ∃ endpoint, Holds past (name, endpoint) address

theorem holds_append {past : Past} {request : Request} {answer : Except Failure Response}
    {names : String × String} {family : Family} {address : Address family} :
    Holds (past ++ [(request, answer)]) names address ↔
      (∃ arguments response, request = .createEndpoint arguments ∧ answer = .ok response ∧
        (arguments.network, arguments.endpoint) = names ∧
        (arguments.Wants address ∨ response.Gives address)) ∨
      Holds past names address ∧
        ¬ (request = .deleteEndpoint ⟨names.1, names.2⟩ ∧ answer.isOk = true) := by
  constructor
  · rintro ⟨before, arguments, response, after, split, named, got, undeleted⟩
    rcases List.eq_nil_or_concat' after with rfl | ⟨rest, last, rfl⟩
    · obtain ⟨-, same⟩ := List.append_inj' split rfl
      cases same
      exact .inl ⟨arguments, response, rfl, rfl, named, got⟩
    · rw [← List.cons_append, ← List.append_assoc] at split
      obtain ⟨rfl, same⟩ := List.append_inj' split rfl
      cases same
      refine .inr ⟨⟨before, arguments, response, rest, rfl, named, got, ?_⟩, ?_⟩
      · exact fun answer member => undeleted answer (List.mem_append_left _ member)
      · rintro ⟨rfl, succeeded⟩
        cases answer with
        | error failure => cases succeeded
        | ok response =>
            exact undeleted response (List.mem_append_right _ List.mem_cons_self)
  · rintro (⟨arguments, response, rfl, rfl, named, got⟩ |
      ⟨⟨before, arguments, response, after, rfl, named, got, undeleted⟩, stays⟩)
    · exact ⟨past, arguments, response, [], rfl, named, got, by simp⟩
    · refine ⟨before, arguments, response, after ++ [(request, answer)], by simp, named, got, ?_⟩
      intro other member
      rcases List.mem_append.mp member with earlier | now
      · exact undeleted other earlier
      · rw [List.mem_singleton] at now
        cases now
        exact stays ⟨rfl, rfl⟩

end Past

/-! ## What entries keep -/

namespace Pool

theorem mem_kept_of_ofEntry {entry : PoolEntry} {pool : Pool} (read : ofEntry entry = .ok pool)
    {family : Family} {address : Address family} :
    address ∈ pool.kept family ↔ entry.Keeps address := by
  have gives := gives_of_ofEntry read
  simp only [mem_kept, PoolEntry.Keeps, gives.gateway, gives.auxiliary,
    AnySubnet.parse?_eq_some_iff, AnyAddress.parse?_eq_some_iff]

theorem exists_kept_of_ofEntries {entries : List PoolEntry} {pools : List Pool}
    (read : ofEntries entries = .ok pools) {family : Family} {address : Address family} :
    (∃ pool ∈ pools, address ∈ pool.kept family) ↔ ∃ entry ∈ entries, entry.Keeps address := by
  have pairs := ofEntriesFrom_eq_ok.mp read
  clear read
  induction pairs with
  | nil => simp
  | cons first rest ih =>
      simp only [List.mem_cons, exists_eq_or_imp, mem_kept_of_ofEntry first, ih]

end Pool

/-! ## New endpoints -/

theorem Endpoint.address_assignedPart (endpoint : Endpoint) (requested : Interface)
    (family : Family) :
    (endpoint.assignedPart requested).address family =
      if (requested.address family).isNone then endpoint.address family else none := by
  cases family <;> rfl

theorem EndpointArguments.wants_iff {arguments : EndpointArguments} {requested : Interface}
    (read : readInterface arguments = .ok requested) {family : Family}
    {address : Address family} :
    arguments.Wants address ↔ ∃ given, requested.address family = some given ∧
      given.address = address := by
  rw [readInterface, Except.mapError_eq_ok] at read
  constructor
  · rintro ⟨other, given, readToo, asked, same⟩
    cases readToo.symm.trans read
    exact ⟨given, asked, same⟩
  · rintro ⟨given, asked, same⟩
    exact ⟨requested, given, read, asked, same⟩

theorem Response.gives_iff {answered : Interface} {family : Family} {address : Address family} :
    (Response.endpoint ⟨some answered.toText⟩).Gives address ↔
      ∃ given, answered.address family = some given ∧ given.address = address := by
  constructor
  · rintro ⟨text, other, given, same, read, asked, isAddress⟩
    cases same
    rw [Interface.ofText_toText] at read
    cases read
    exact ⟨given, asked, isAddress⟩
  · rintro ⟨given, asked, isAddress⟩
    exact ⟨_, answered, given, rfl, answered.ofText_toText, asked, isAddress⟩

theorem Network.held_iff_of_newEndpoint {network : Network} {drawn : HardwareAddress}
    {value : Endpoint} {arguments : EndpointArguments} {requested : Interface}
    (read : readInterface arguments = .ok requested)
    (made : network.newEndpoint requested drawn = .ok value) {family : Family}
    {address : Address family} :
    value.held family = some address ↔ arguments.Wants address ∨
      (Response.endpoint ⟨some (value.assignedPart requested).toText⟩).Gives address := by
  have assigned := assigns_of_newEndpoint made family
  rw [Endpoint.held, EndpointArguments.wants_iff read, Response.gives_iff,
    Endpoint.address_assignedPart]
  generalize requested.address family = asked at assigned
  generalize value.address family = got at assigned
  cases assigned <;> simp

namespace Registry

variable {drawn : HardwareAddress} {registry : Registry} {name : String}
  {names : String × String} {family : Family} {address : Address family}

/-! ## Who holds what -/

def Holds (registry : Registry) (names : String × String) {family : Family}
    (address : Address family) : Prop :=
  ∃ value, endpoint? registry names.1 names.2 = some value ∧ value.held family = some address

theorem holds_of_same {other : Registry}
    (same : endpoint? other names.1 names.2 = endpoint? registry names.1 names.2) :
    Holds other names address ↔ Holds registry names address := by
  rw [Holds, same, ← Holds]

theorem holds_setSandbox {network endpoint : String} {owner : Network} {value : Endpoint}
    (stored : registry[network]? = some owner) (present : owner.endpoints[endpoint]? = some value)
    (sandbox : Option String) :
    Holds (registry.putEndpoint network endpoint owner { value with sandbox }) names address ↔
      Holds registry names address := by
  unfold Holds
  rw [endpoint?_putEndpoint stored]
  split
  · next same =>
      subst same
      rw [endpoint?_of_some stored, present]
      simp only [Option.some.injEq, exists_eq_left']
      rfl
  · rfl

theorem holds_dropEndpoint {network endpoint : String} {owner : Network}
    (stored : registry[network]? = some owner) :
    Holds (registry.dropEndpoint network endpoint owner) names address ↔
      Holds registry names address ∧ (network, endpoint) ≠ names := by
  unfold Holds
  rw [endpoint?_dropEndpoint stored]
  split
  · next same => simp [same]
  · next other => simp [other]

/-- What a granted call changes about who holds an address, in terms of its request and of
the answer to it. -/
theorem Grants.holds {request : Request} {call : Call} {respond : call.Reply → Response}
    {turn : Turn Registry call.Reply} (planned : request.plan = .ask call respond)
    (granted : Grants drawn registry call turn) :
    Holds turn.state names address ↔
      (∃ arguments, request = .createEndpoint arguments ∧
        (arguments.network, arguments.endpoint) = names ∧
        (arguments.Wants address ∨ (respond turn.answer).Gives address)) ∨
      Holds registry names address ∧ request ≠ .deleteEndpoint ⟨names.1, names.2⟩ := by
  cases asks_of_plan planned with
  | createNetwork =>
      cases granted with
      | networkCreated absent =>
          rw [holds_of_same (endpoint?_insert_empty absent rfl _ _)]
          simp
  | deleteNetwork =>
      cases granted with
      | networkDeleted stored empty =>
          rw [holds_of_same (endpoint?_erase_empty stored empty _ _)]
          simp
  | endpointInfo =>
      cases granted with
      | endpointReported stored present => simp [Turn.idle]
  | join =>
      cases granted with
      | joined stored present idle =>
          rw [holds_setSandbox stored present]
          simp
  | leave =>
      cases granted with
      | left stored present joined =>
          rw [holds_setSandbox stored present none]
          simp
  | @deleteEndpoint arguments =>
      cases granted with
      | endpointDeleted stored present idle =>
          obtain ⟨network, endpoint⟩ := arguments
          rw [holds_dropEndpoint stored]
          simp [Prod.ext_iff]
  | createEndpoint read =>
      cases granted with
      | endpointCreated stored absent made =>
          unfold Holds
          rw [endpoint?_putEndpoint stored]
          split
          · next same =>
              subst same
              rw [endpoint?_of_some stored, absent]
              simp [Network.held_iff_of_newEndpoint read made]
          · next other => simp [other]

theorem run_holds (inputs : List Input) :
    Holds (run ∅ inputs) names address ↔ Past.Holds (history ∅ inputs) names address := by
  refine run_induction (P := fun registry past =>
    Holds registry names address ↔ Past.Holds past names address) ?_ ?_ inputs
  · refine iff_of_false ?_ ?_
    · rintro ⟨value, found, -⟩
      simp [endpoint?] at found
    · rintro ⟨before, arguments, response, after, split, -⟩
      simp at split
  · intro registry past input agree
    rw [Past.holds_append]
    cases served registry input with
    | known result planned =>
        rw [serve_of_answer planned, agree]
        have uncreated : ∀ arguments response, input.request = .createEndpoint arguments →
            result ≠ .ok response := by
          rintro arguments response same rfl
          have nothing := Request.deed?_of_answer planned
          rw [same] at nothing
          cases nothing
        have undeleted : input.request ≠ .deleteEndpoint ⟨names.1, names.2⟩ := by
          intro same
          rw [same] at planned
          cases planned
        constructor
        · exact fun held => .inr ⟨held, fun both => undeleted both.1⟩
        · rintro (⟨arguments, response, same, succeeded, -⟩ | ⟨held, -⟩)
          · exact absurd succeeded (uncreated arguments response same)
          · exact held
    | granted call respond turn planned granted =>
        rw [serve_of_grants planned granted, granted.holds planned, agree]
        simp [Except.isOk, Except.toBool]
    | refused call respond refusal planned refused =>
        rw [serve_of_refuses planned refused, agree]
        simp [Except.isOk, Except.toBool]

/-! ## What networks were made with -/

theorem pools_of_insert {network : String} {owner after : Network}
    {endpoints : Dictionary Endpoint} (found : registry[network]? = some owner)
    (stored : (registry.insert network { owner with endpoints })[name]? = some after) :
    ∃ before, registry[name]? = some before ∧ before.ipv4 = after.ipv4 ∧
      before.ipv6 = after.ipv6 := by
  rw [Dictionary.getElem?_insert] at stored
  split at stored
  · next same =>
      cases stored
      exact ⟨owner, same ▸ found, rfl, rfl⟩
  · exact ⟨after, stored, rfl, rfl⟩

theorem Grants.pools {request : Request} {call : Call} {respond : call.Reply → Response}
    {turn : Turn Registry call.Reply} (planned : request.plan = .ask call respond)
    (granted : Grants drawn registry call turn) {after : Network}
    (stored : turn.state[name]? = some after) (response : Response) :
    (∃ arguments, Past.networkMade? name (request, .ok response) = some arguments ∧
        Pool.ofEntries arguments.ipv4 = .ok after.ipv4 ∧
        Pool.ofEntries arguments.ipv6 = .ok after.ipv6) ∨
      Past.networkMade? name (request, .ok response) = none ∧
        ∃ before, registry[name]? = some before ∧ before.ipv4 = after.ipv4 ∧
          before.ipv6 = after.ipv6 := by
  cases asks_of_plan planned with
  | @createNetwork arguments ipv4 ipv6 read readV6 =>
      cases granted with
      | networkCreated absent =>
          rw [Dictionary.getElem?_insert] at stored
          split at stored
          · next same =>
              cases stored
              refine .inl ⟨arguments, ?_, readPools_eq_ok.mp read, readPools_eq_ok.mp readV6⟩
              simp [Past.networkMade?, same, Except.isOk, Except.toBool]
          · next other =>
              refine .inr ⟨?_, after, stored, rfl, rfl⟩
              simp [Past.networkMade?, other]
  | deleteNetwork =>
      cases granted with
      | networkDeleted found empty =>
          rw [Dictionary.getElem?_erase] at stored
          split at stored
          · cases stored
          · exact .inr ⟨rfl, after, stored, rfl, rfl⟩
  | endpointInfo =>
      cases granted with
      | endpointReported found present => exact .inr ⟨rfl, after, stored, rfl, rfl⟩
  | createEndpoint =>
      cases granted with
      | endpointCreated found absent made => exact .inr ⟨rfl, pools_of_insert found stored⟩
  | deleteEndpoint =>
      cases granted with
      | endpointDeleted found present idle => exact .inr ⟨rfl, pools_of_insert found stored⟩
  | join =>
      cases granted with
      | joined found present idle => exact .inr ⟨rfl, pools_of_insert found stored⟩
  | leave =>
      cases granted with
      | left found present joined => exact .inr ⟨rfl, pools_of_insert found stored⟩

theorem run_pools (inputs : List Input) {owner : Network}
    (stored : (run ∅ inputs)[name]? = some owner) :
    ∃ arguments, Past.lastNetwork? name (history ∅ inputs) = some arguments ∧
      Pool.ofEntries arguments.ipv4 = .ok owner.ipv4 ∧
      Pool.ofEntries arguments.ipv6 = .ok owner.ipv6 := by
  refine run_induction (P := fun registry past => ∀ owner, registry[name]? = some owner →
    ∃ arguments, Past.lastNetwork? name past = some arguments ∧
      Pool.ofEntries arguments.ipv4 = .ok owner.ipv4 ∧
      Pool.ofEntries arguments.ipv6 = .ok owner.ipv6) ?_ ?_ inputs owner stored
  · intro owner stored
    simp at stored
  · intro registry past input known after stored
    rw [Past.lastNetwork?_append]
    cases served registry input with
    | known result planned =>
        rw [serve_of_answer planned] at stored ⊢
        rw [Past.networkMade?_of_answer name planned]
        exact known after stored
    | granted call respond turn planned granted =>
        rw [serve_of_grants planned granted] at stored ⊢
        rcases granted.pools planned stored (respond turn.answer) with
          ⟨arguments, made, read⟩ | ⟨unmade, before, found, same, sameV6⟩
        · rw [made]
          exact ⟨arguments, rfl, read⟩
        · rw [unmade, ← same, ← sameV6]
          exact known before found
    | refused call respond refusal planned refused =>
        rw [serve_of_refuses planned refused] at stored ⊢
        rw [Past.networkMade?_of_fails name _ rfl]
        exact known after stored

end Registry

/-! ## Refusals of requested addresses -/

namespace Assignment

variable {family : Family} {pools : List (Subnet family)} {used : List (Address family)}

theorem assign_of_host {pool given : Subnet family}
    (first : pools.find? (fun pool => decide (pool.Contains given.address)) = some pool)
    (host : pool.IsHost given.address) :
    assign pools used (some given) =
      if given.address ∈ used then .error (.addressInUse family given.address)
      else .ok (some given) := by
  simp only [assign, checkRequested, first, host, not_true_eq_false, if_false]
  split <;> rfl

theorem assign_congr {other : List (Address family)}
    (same : ∀ address, address ∈ used ↔ address ∈ other) (requested : Option (Subnet family)) :
    assign pools used requested = assign pools other requested := by
  cases requested with
  | some given => simp only [assign, checkRequested, same]
  | none =>
      cases pools with
      | nil => rfl
      | cons pool others =>
          have found : firstFree? pool used = firstFree? pool other := by
            simp only [firstFree?_eq_find?, same]
          simp only [assign, pickFree, found]

end Assignment

theorem Refusal.failure_ne_addressInUse {pools : List (Subnet .v6)}
    {used : List (Address .v6)} {requested : Option (Subnet .v6)} {refusal : Refusal}
    (denied : Assignment.Denies pools used requested refusal) (address : Address .v4) :
    refusal.failure ≠ (addressInUse .v4 address).failure := by
  intro same
  have texts := congrArg (fun failure => failure.message.toList) same
  cases denied with
  | poolExhausted => cases congrArg Failure.kind same
  | outsidePools | notAHost | addressInUse =>
      simp [failure, message, Family.name] at texts

namespace Network

variable {network : Network} {family : Family} {given pool : Subnet family}
  {requested : Interface}

/-- A host is refused to those who ask for it exactly while it is in use. -/
theorem newEndpoint_addressInUse_iff
    (first : (network.subnets family).find? (fun pool => decide (pool.Contains given.address)) =
      some pool) (host : pool.IsHost given.address)
    (asked : requested.address family = some given)
    (otherwise : family = .v6 → ∃ ipv4, Assignment.assign (network.subnets .v4)
      (network.used .v4) requested.ipv4 = .ok ipv4) (drawn : HardwareAddress) :
    (∃ refusal, network.newEndpoint requested drawn = .error refusal ∧
        refusal.failure = (Refusal.addressInUse family given.address).failure) ↔
      given.address ∈ network.used family := by
  have assigned : Assignment.assign (network.subnets family) (network.used family)
      (requested.address family) =
        if given.address ∈ network.used family then .error (.addressInUse family given.address)
        else .ok (some given) := by
    rw [asked, Assignment.assign_of_host first host]
  cases family with
  | v4 =>
      by_cases taken : given.address ∈ network.used .v4
      · rw [if_pos taken] at assigned
        refine iff_of_true ⟨_, ?_, rfl⟩ taken
        exact Except.bind_eq_error.mpr (.inl assigned)
      · rw [if_neg taken] at assigned
        refine iff_of_false ?_ taken
        rintro ⟨refusal, failed, told⟩
        simp only [newEndpoint, Except.bind_eq_error] at failed
        rcases failed with denied | ⟨ipv4, -, denied | ⟨ipv6, -, failed⟩⟩
        · cases denied.symm.trans assigned
        · exact Refusal.failure_ne_addressInUse (Assignment.denies_of_error denied) _ told
        · cases failed
  | v6 =>
      obtain ⟨ipv4, free⟩ := otherwise rfl
      by_cases taken : given.address ∈ network.used .v6
      · rw [if_pos taken] at assigned
        refine iff_of_true ⟨_, ?_, rfl⟩ taken
        exact Except.bind_eq_error.mpr (.inr ⟨ipv4, free, Except.bind_eq_error.mpr (.inl assigned)⟩)
      · rw [if_neg taken] at assigned
        refine iff_of_false ?_ taken
        rintro ⟨refusal, failed, -⟩
        have made : network.newEndpoint requested drawn = .ok _ :=
          newEndpoint_eq_ok.mpr ⟨ipv4, _, free, assigned, rfl⟩
        cases failed.symm.trans made

end Network

namespace Registry

variable {registry : Registry} {name : String} {owner : Network}

theorem answer_createEndpoint {arguments : EndpointArguments} {requested : Interface}
    (stored : registry[arguments.network]? = some owner)
    (unused : owner.endpoints[arguments.endpoint]? = none)
    (read : readInterface arguments = .ok requested) (drawn : HardwareAddress) :
    (serve registry ⟨drawn, .createEndpoint arguments⟩).answer =
      match owner.newEndpoint requested drawn with
      | .ok value => .ok (.endpoint ⟨some (value.assignedPart requested).toText⟩)
      | .error refusal => .error refusal.failure := by
  cases made : owner.newEndpoint requested drawn with
  | ok value =>
      have created : Created registry drawn arguments requested owner value :=
        ⟨read, stored, unused, made⟩
      rw [created.serve_eq]
  | error refusal =>
      have unassigned : Unassigned registry drawn arguments requested owner refusal :=
        ⟨read, stored, unused, made⟩
      rw [unassigned.serve_eq]

theorem answer_addressInUse_iff {arguments : EndpointArguments} {requested : Interface}
    (stored : registry[arguments.network]? = some owner)
    (unused : owner.endpoints[arguments.endpoint]? = none)
    (read : readInterface arguments = .ok requested) (drawn : HardwareAddress)
    {refusal : Refusal} :
    (serve registry ⟨drawn, .createEndpoint arguments⟩).answer = .error refusal.failure ↔
      ∃ other, owner.newEndpoint requested drawn = .error other ∧
        other.failure = refusal.failure := by
  rw [answer_createEndpoint stored unused read]
  cases owner.newEndpoint requested drawn <;> simp

/-! ## Occupied addresses -/

theorem mem_held_iff {family : Family} {address : Address family}
    (stored : registry[name]? = some owner) :
    address ∈ owner.held family ↔ ∃ endpoint, Holds registry (name, endpoint) address := by
  simp only [Network.mem_held, Holds, endpoint?_of_some stored]

/-- The addresses that are in use are those that the past says are occupied. -/
theorem mem_used_iff_occupies (inputs : List Input) (stored : (run ∅ inputs)[name]? = some owner)
    {family : Family} (address : Address family) :
    address ∈ owner.used family ↔ Past.Occupies (history ∅ inputs) name address := by
  obtain ⟨arguments, made, ipv4, ipv6⟩ := run_pools inputs stored
  have keeps : address ∈ owner.kept family ↔
      ∃ entry ∈ arguments.ipv4 ++ arguments.ipv6, entry.Keeps address := by
    simp only [Network.mem_kept, List.mem_append, or_and_right, exists_or,
      Pool.exists_kept_of_ofEntries ipv4, Pool.exists_kept_of_ofEntries ipv6]
  have holds : address ∈ owner.held family ↔
      ∃ endpoint, Past.Holds (history ∅ inputs) (name, endpoint) address := by
    simp only [mem_held_iff stored, run_holds]
  rw [Network.used, List.mem_append, keeps, holds, Past.Occupies, made]
  simp only [Option.some.injEq, exists_and_left, exists_eq_left']

/-! ## What occupies no address and frees none -/

end Registry

namespace Network

/-- A network that has the same addresses to give away, and the same names. -/
structure OffersAs (network other : Network) : Prop where
  ipv4 : network.ipv4 = other.ipv4
  ipv6 : network.ipv6 = other.ipv6
  held : ∀ family (address : Address family),
    address ∈ network.held family ↔ address ∈ other.held family
  unused : ∀ endpoint : String,
    network.endpoints[endpoint]? = none ↔ other.endpoints[endpoint]? = none

variable {network other : Network}

theorem OffersAs.refl (network : Network) : network.OffersAs network :=
  ⟨rfl, rfl, fun _ _ => Iff.rfl, fun _ => Iff.rfl⟩

theorem OffersAs.setSandbox {endpoint : String} {value : Endpoint}
    (present : network.endpoints[endpoint]? = some value) (sandbox : Option String) :
    OffersAs { network with endpoints := network.endpoints.insert endpoint { value with sandbox } }
      network where
  ipv4 := rfl
  ipv6 := rfl
  held family _ := by
    have same : Endpoint.held { value with sandbox } family = value.held family := rfl
    exact mem_held_insert_of_same present same
  unused other := by
    simp only [Dictionary.getElem?_insert]
    split
    · next same => simp [← same, present]
    · rfl

theorem OffersAs.newEndpoint_eq (offers : network.OffersAs other) (requested : Interface)
    (drawn : HardwareAddress) :
    network.newEndpoint requested drawn = other.newEndpoint requested drawn := by
  have subnets (family : Family) : network.subnets family = other.subnets family := by
    cases family <;> simp only [Network.subnets, Network.pools, offers.ipv4, offers.ipv6]
  have used (family : Family) (address : Address family) :
      address ∈ network.used family ↔ address ∈ other.used family := by
    simp only [Network.used, Network.kept, List.mem_append, offers.ipv4, offers.ipv6, offers.held]
  simp only [newEndpoint, subnets, Assignment.assign_congr (used _)]

end Network

namespace Registry

variable {registry : Registry} {name : String} {owner : Network}

theorem offersAs_setSandbox {network endpoint : String} {before : Network} {value : Endpoint}
    (found : registry[network]? = some before)
    (present : before.endpoints[endpoint]? = some value) (sandbox : Option String)
    (stored : registry[name]? = some owner) :
    ∃ after, (registry.putEndpoint network endpoint before { value with sandbox })[name]? =
      some after ∧ after.OffersAs owner := by
  rw [putEndpoint, Dictionary.getElem?_insert]
  split
  · next same =>
      subst same
      cases found.symm.trans stored
      exact ⟨_, rfl, .setSandbox present sandbox⟩
  · exact ⟨owner, stored, .refl owner⟩

def Input.Spares (name : String) (input : Input) (answer : Except Failure Response) : Prop :=
  input.request.operation = .join ∨ input.request.operation = .leave ∨
    answer.isOk = false ∨ input.isOn name = false

theorem serve_offersAs {input : Input} (spares : input.Spares name (serve registry input).answer)
    (stored : registry[name]? = some owner) :
    ∃ after, (serve registry input).state[name]? = some after ∧ after.OffersAs owner := by
  have attaching (attaches : input.request.operation = .join ∨
      input.request.operation = .leave) :
      ∃ after, (serve registry input).state[name]? = some after ∧ after.OffersAs owner := by
    obtain ⟨drawn, request⟩ := input
    cases served registry ⟨drawn, request⟩ with
    | known result planned =>
        rw [serve_of_answer planned]
        exact ⟨owner, stored, .refl owner⟩
    | granted call respond turn planned granted =>
        rw [serve_of_grants planned granted]
        cases asks_of_plan planned with
        | join =>
            cases granted with
            | joined found present idle => exact offersAs_setSandbox found present _ stored
        | leave =>
            cases granted with
            | left found present joined => exact offersAs_setSandbox found present none stored
        | createNetwork | deleteNetwork | createEndpoint | deleteEndpoint | endpointInfo =>
            rcases attaches with other | other <;> cases other
    | refused call respond refusal planned refused =>
        rw [serve_of_refuses planned refused]
        exact ⟨owner, stored, .refl owner⟩
  rcases spares with join | leave | failed | elsewhere
  · exact attaching (.inl join)
  · exact attaching (.inr leave)
  · rw [serve_unchanged (.inl failed)]
    exact ⟨owner, stored, .refl owner⟩
  · exact ⟨owner, (serve_frame elsewhere).trans stored, .refl owner⟩

/-! ## Requested addresses -/

variable {arguments : EndpointArguments} {requested : Interface} {family : Family}
  {given pool : Subnet family}

/-- A host of a network is refused to a new endpoint, as being in use, exactly while the
past says that it is occupied, of which neither joining and leaving nor failures and
requests elsewhere are part. -/
theorem occupied_while_past_says (inputs : List Input)
    (stored : (run ∅ inputs)[arguments.network]? = some owner)
    (first : (owner.subnets family).find? (fun pool => decide (pool.Contains given.address)) =
      some pool) (host : pool.IsHost given.address)
    (unused : owner.endpoints[arguments.endpoint]? = none)
    (read : Interface.ofText? arguments.interface = .ok requested)
    (asked : requested.address family = some given)
    (otherwise : family = .v6 → ∃ ipv4, Assignment.assign (owner.subnets .v4) (owner.used .v4)
      requested.ipv4 = .ok ipv4) (drawn : HardwareAddress) :
    ((serve (run ∅ inputs) ⟨drawn, .createEndpoint arguments⟩).answer =
        .error ⟨some .badRequest,
          family.name ++ " address " ++ given.address.render ++ " is already in use"⟩ ↔
      Past.Occupies (history ∅ inputs) arguments.network given.address) ∧
    ∀ input, input.Spares arguments.network (serve (run ∅ inputs) input).answer →
      (serve (run ∅ (inputs ++ [input])) ⟨drawn, .createEndpoint arguments⟩).answer =
        (serve (run ∅ inputs) ⟨drawn, .createEndpoint arguments⟩).answer := by
  have readToo : readInterface arguments = .ok requested := by
    rw [readInterface, read]
    rfl
  constructor
  · rw [← mem_used_iff_occupies inputs stored,
      ← Network.newEndpoint_addressInUse_iff first host asked otherwise drawn,
      ← answer_addressInUse_iff stored unused readToo drawn]
    rfl
  · intro input spares
    obtain ⟨after, storedAfter, offers⟩ := serve_offersAs spares stored
    have ends : run ∅ (inputs ++ [input]) = (serve (run ∅ inputs) input).state :=
      run_append ∅ inputs [input]
    have unusedAfter : after.endpoints[arguments.endpoint]? = none := (offers.unused _).mpr unused
    rw [ends, answer_createEndpoint storedAfter unusedAfter readToo,
      answer_createEndpoint stored unused readToo, offers.newEndpoint_eq]

/-- A deleted endpoint has given its address back. -/
theorem deleted_endpoint_occupies_nothing :
    let made : List Input := [.makeNetwork "blue" "10.0.0.0/30", .makeEndpoint "blue" "one",
      ⟨default, .join { network := "blue", endpoint := "one", sandbox := "box" }⟩,
      ⟨default, .leave ⟨"blue", "one"⟩⟩]
    let deleted := made ++ [⟨default, .deleteEndpoint ⟨"blue", "one"⟩⟩]
    Past.Occupies (history ∅ made) "blue" (.ofNat 0x0a000001 : Address .v4) ∧
      ¬ Past.Occupies (history ∅ deleted) "blue" (.ofNat 0x0a000001 : Address .v4) := by
  intro made deleted
  have refused : (serve (run ∅ made)
      ⟨default, .createEndpoint (.at "blue" "two" "10.0.0.1/30")⟩).answer =
    .error ⟨some .badRequest, "IPv4 address 10.0.0.1 is already in use"⟩ := rfl
  have granted : (serve (run ∅ deleted)
      ⟨default, .createEndpoint (.at "blue" "two" "10.0.0.1/30")⟩).answer.isOk = true := rfl
  let pool : Subnet .v4 := ⟨.ofNat 0x0a000000, 30, by decide⟩
  have read : Interface.ofText? (EndpointArguments.at "blue" "two" "10.0.0.1/30").interface =
    .ok { ipv4 := some ⟨.ofNat 0x0a000001, 30, by decide⟩ } := rfl
  have host : pool.IsHost (.ofNat 0x0a000001) := by decide
  have apart : Family.v4 ≠ .v6 := by decide
  constructor
  · obtain ⟨owner, stored, first, unused⟩ : ∃ owner, (run ∅ made)["blue"]? = some owner ∧
        (owner.subnets .v4).find? (fun pool => decide (pool.Contains (.ofNat 0x0a000001))) =
          some pool ∧
        owner.endpoints["two"]? = none := ⟨_, rfl, rfl, rfl⟩
    have told := occupied_while_past_says made stored first host unused read rfl
      (fun other => absurd other apart) default
    exact told.1.mp refused
  · obtain ⟨owner, stored, first, unused⟩ : ∃ owner, (run ∅ deleted)["blue"]? = some owner ∧
        (owner.subnets .v4).find? (fun pool => decide (pool.Contains (.ofNat 0x0a000001))) =
          some pool ∧
        owner.endpoints["two"]? = none := ⟨_, rfl, rfl, rfl⟩
    have told := occupied_while_past_says deleted stored first host unused read rfl
      (fun other => absurd other apart) default
    intro occupied
    rw [told.1.mpr occupied] at granted
    cases granted

end Registry

end NetworkPlugin
