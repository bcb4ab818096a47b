import NetworkPlugin.Proofs.Past
import NetworkPlugin.Proofs.Pool
import NetworkPlugin.Proofs.Registry.Lifecycle
import NetworkPlugin.Proofs.Text.ByteOrder

/-!
# Counting endpoints

A network is there if the last that was done to it was to make it, and it can be deleted
if all endpoints that were ever made on it have been deleted, in whichever of its lives.
The registry keeps no counters: what carries the proof is that a granted call changes the
number of endpoints of each network by what it does to them.
-/

namespace NetworkPlugin

/-! ## Deeds on a network -/

inductive NetworkDeed where
  | create
  | delete
deriving DecidableEq

def Request.networkDeed? : Request → Option (NetworkDeed × String)
  | createNetwork arguments => some (.create, arguments.network)
  | deleteNetwork arguments => some (.delete, arguments.network)
  | _ => none

def Call.networkDeed? : Call → Option (NetworkDeed × String)
  | createNetwork network .. => some (.create, network)
  | deleteNetwork network => some (.delete, network)
  | _ => none

theorem Request.networkDeed?_of_ask {request : Request} {call : Call}
    {respond : call.Reply → Response} (planned : request.plan = .ask call respond) :
    request.networkDeed? = call.networkDeed? := by
  cases asks_of_plan planned <;> rfl

def NetworkDeed.on? (name : String) (done : Option (NetworkDeed × String)) :
    Option NetworkDeed :=
  done.bind fun (deed, other) => if other = name then some deed else none

def Deed.in? (name : String) (done : Option (Deed × String × String)) : Option Deed :=
  done.bind fun (deed, names) => if names.1 = name then some deed else none

theorem Deed.in?_self (deed : Deed) (name endpoint : String) :
    Deed.in? name (some (deed, name, endpoint)) = some deed := if_pos rfl

theorem Deed.in?_of_ne {network name : String} (other : network ≠ name) (deed : Deed)
    (endpoint : String) : Deed.in? name (some (deed, network, endpoint)) = none := if_neg other

namespace Past

def lastNetworkDeed? (name : String) (past : Past) : Option NetworkDeed :=
  (done (fun request => NetworkDeed.on? name request.networkDeed?) past).getLast?

/-- How often a deed was done to endpoints on a network, over all of its lives. -/
def count (deed : Deed) (name : String) (past : Past) : Nat :=
  (done (fun request => Deed.in? name request.deed?) past).count deed

end Past

namespace Registry

variable {drawn : HardwareAddress} {registry : Registry} {name : String}

/-! ## How many endpoints there are -/

def population (registry : Registry) (name : String) : Nat :=
  registry[name]?.elim 0 fun owner => owner.endpoints.size

theorem population_of_some {owner : Network} (stored : registry[name]? = some owner) :
    population registry name = owner.endpoints.size := by
  simp [population, stored]

theorem population_of_none (absent : registry[name]? = none) : population registry name = 0 := by
  simp [population, absent]

theorem population_insert (registry : Registry) (network : String) (owner : Network)
    (name : String) :
    population (registry.insert network owner) name =
      if network = name then owner.endpoints.size else population registry name := by
  unfold population
  rw [Dictionary.getElem?_insert]
  split <;> rfl

theorem population_erase (registry : Registry) (network name : String) :
    population (registry.erase network) name =
      if network = name then 0 else population registry name := by
  unfold population
  rw [Dictionary.getElem?_erase]
  split <;> rfl

/-- The endpoints of a network that are there and those that were deleted are those that
were there before and those that were made. -/
def Balances (before after : Nat) (deed : Option Deed) : Prop :=
  after + deed.toList.count .delete = before + deed.toList.count .create

theorem balances_of_change {other : Registry} {network endpoint : String} {owner : Network}
    {deed : Deed} {size : Nat} (stored : registry[network]? = some owner)
    (change : ∀ name, population other name =
      if network = name then size else population registry name)
    (balance : Balances owner.endpoints.size size (some deed)) (name : String) :
    Balances (population registry name) (population other name)
      (Deed.in? name (some (deed, network, endpoint))) := by
  by_cases same : network = name
  · subst same
    rw [Deed.in?_self, change, if_pos rfl, population_of_some stored]
    exact balance
  · rw [Deed.in?_of_ne same, change, if_neg same]
    rfl

theorem Grants.balances {call : Call} {turn : Turn Registry call.Reply}
    (granted : Grants drawn registry call turn) (name : String) :
    Balances (population registry name) (population turn.state name)
      (Deed.in? name call.deed?) := by
  cases granted with
  | networkCreated absent =>
      rw [population_insert]
      split
      · next same => rw [← same, population_of_none absent]; rfl
      · rfl
  | networkDeleted stored empty =>
      rw [population_erase]
      split
      · next same => rw [← same, population_of_some stored, empty]; rfl
      · rfl
  | endpointReported stored present => rfl
  | endpointCreated stored absent made =>
      refine balances_of_change stored (population_insert _ _ _) ?_ name
      exact Dictionary.size_insert_of_none absent _
  | endpointDeleted stored present idle =>
      refine balances_of_change stored (population_insert _ _ _) ?_ name
      exact Dictionary.size_erase_of_some present
  | joined stored present idle =>
      refine balances_of_change stored (population_insert _ _ _) ?_ name
      exact Dictionary.size_insert_of_some present _
  | left stored present joined =>
      refine balances_of_change stored (population_insert _ _ _) ?_ name
      exact Dictionary.size_insert_of_some present _

theorem run_population (name : String) (inputs : List Input) :
    population (run ∅ inputs) name + Past.count .delete name (history ∅ inputs) =
      Past.count .create name (history ∅ inputs) := by
  refine run_done (fun request => Deed.in? name request.deed?)
    (P := fun registry found =>
      population registry name + found.count .delete = found.count .create) ?_ ?_ ?_ inputs
  · simp [population]
  · intro request unneeded
    cases request <;> first | rfl | cases unneeded
  · intro drawn registry request call respond turn found planned granted account
    have balance := granted.balances name
    rw [← Request.deed?_of_ask planned] at balance
    unfold Balances at balance
    rw [List.count_append, List.count_append]
    omega

/-! ## Which networks there are -/

def remains (before : Bool) : Option NetworkDeed → Bool
  | none => before
  | some .create => true
  | some .delete => false

theorem contains_putEndpoint {network : String} {owner : Network}
    (stored : registry[network]? = some owner) (after : Network) (name : String) :
    Std.ExtTreeMap.contains (registry.insert network after) name = registry.contains name := by
  rw [Std.ExtTreeMap.contains_eq_isSome_getElem?, Dictionary.getElem?_insert,
    Std.ExtTreeMap.contains_eq_isSome_getElem?]
  split
  · next same => rw [← same, stored]; rfl
  · rfl

theorem Grants.contains {call : Call} {turn : Turn Registry call.Reply}
    (granted : Grants drawn registry call turn) (name : String) :
    turn.state.contains name =
      remains (registry.contains name) (NetworkDeed.on? name call.networkDeed?) := by
  cases granted with
  | networkCreated absent =>
      simp only [NetworkDeed.on?, Call.networkDeed?, Option.bind_some,
        Std.ExtTreeMap.contains_eq_isSome_getElem?, Dictionary.getElem?_insert]
      split <;> rfl
  | networkDeleted stored empty =>
      simp only [NetworkDeed.on?, Call.networkDeed?, Option.bind_some,
        Std.ExtTreeMap.contains_eq_isSome_getElem?, Dictionary.getElem?_erase]
      split <;> rfl
  | endpointReported stored present => rfl
  | endpointCreated stored absent made => exact contains_putEndpoint stored _ name
  | endpointDeleted stored present idle => exact contains_putEndpoint stored _ name
  | joined stored present idle => exact contains_putEndpoint stored _ name
  | left stored present joined => exact contains_putEndpoint stored _ name

theorem run_contains (name : String) (inputs : List Input) :
    (run ∅ inputs).contains name = true ↔
      Past.lastNetworkDeed? name (history ∅ inputs) = some .create := by
  refine run_done (fun request => NetworkDeed.on? name request.networkDeed?)
    (P := fun registry found =>
      registry.contains name = true ↔ found.getLast? = some .create) ?_ ?_ ?_ inputs
  · simp
  · intro request unneeded
    cases request <;> first | rfl | cases unneeded
  · intro drawn registry request call respond turn found planned granted known
    rw [granted.contains name, Request.networkDeed?_of_ask planned]
    rcases NetworkDeed.on? name call.networkDeed? with - | (- | -)
    · simpa [remains] using known
    · simp [remains]
    · simp [remains]

/-! ## Requests for networks -/

theorem fares_createNetwork (registry : Registry) {arguments : NetworkArguments Json}
    {ipv4 ipv6 : List Pool} (read : readPools .v4 arguments.ipv4 = .ok ipv4)
    (readV6 : readPools .v6 arguments.ipv6 = .ok ipv6) (drawn : HardwareAddress) :
    Fares (if registry.contains arguments.network then some .forbidden else none)
      (serve registry ⟨drawn, .createNetwork arguments⟩).answer := by
  have planned := (Asks.createNetwork read readV6).plan_eq
  cases stored : registry[arguments.network]? with
  | none =>
      rw [if_neg (by simp [Dictionary.contains_of_none stored])]
      exact fares_of_grants planned (.networkCreated stored)
  | some owner =>
      rw [if_pos (Dictionary.contains_of_some stored)]
      exact fares_of_refuses planned (.networkExists stored)

theorem fares_deleteNetwork_of_absent (absent : registry.contains name = false)
    (drawn : HardwareAddress) :
    Fares (some .notFound) (serve registry ⟨drawn, .deleteNetwork ⟨name⟩⟩).answer := by
  have missing : registry[name]? = none := by
    rwa [Std.ExtTreeMap.contains_eq_isSome_getElem?, Option.isSome_eq_false_iff,
      Option.isNone_iff_eq_none] at absent
  exact fares_of_refuses Asks.deleteNetwork.plan_eq (.networkUnknown rfl missing)

theorem answer_deleteNetwork_of_contains (known : registry.contains name = true)
    (drawn : HardwareAddress) :
    (serve registry ⟨drawn, .deleteNetwork ⟨name⟩⟩).answer =
      if population registry name = 0 then .ok .done
      else .error (Refusal.networkInUse name (population registry name)).failure := by
  rw [Std.ExtTreeMap.contains_eq_isSome_getElem?, Option.isSome_iff_exists] at known
  obtain ⟨owner, stored⟩ := known
  rw [population_of_some stored]
  split
  · next zero =>
      have empty := Std.ExtTreeMap.eq_empty_iff_size_eq_zero.mpr zero
      rw [@serve_of_grants registry ⟨drawn, .deleteNetwork ⟨name⟩⟩ _ _ _
        Asks.deleteNetwork.plan_eq (.networkDeleted stored empty)]
  · next positive =>
      have inUse := fun empty => positive (Std.ExtTreeMap.eq_empty_iff_size_eq_zero.mp empty)
      rw [@serve_of_refuses registry ⟨drawn, .deleteNetwork ⟨name⟩⟩ _ _ _
        Asks.deleteNetwork.plan_eq (.networkInUse stored inUse)]

/-! ## Names of networks -/

theorem mem_names : name ∈ registry.names ↔ registry.contains name = true := by
  rw [names, Std.ExtTreeMap.mem_keys, Std.ExtTreeMap.contains_iff_mem]

theorem names_ordered (registry : Registry) :
    registry.names.Pairwise fun one other => one.toUTF8.toList < other.toUTF8.toList := by
  refine Std.ExtTreeMap.ordered_keys.imp ?_
  intro one other less
  exact Text.toUTF8_lt_toUTF8 (compareOfLessAndEq_eq_lt.mp less)

/-! ## The account of a network -/

/-- What the past says of a network: whether it is there, and how many endpoints. -/
structure CountedBy (registry : Registry) (past : Past) (name : String) : Prop where
  known : registry.contains name = true ↔ Past.lastNetworkDeed? name past = some .create
  create : ∀ drawn (arguments : NetworkArguments Json) ipv4 ipv6, arguments.network = name →
    Pool.ofEntries arguments.ipv4 = .ok ipv4 → Pool.ofEntries arguments.ipv6 = .ok ipv6 →
    ((serve registry ⟨drawn, .createNetwork arguments⟩).answer.isOk = true ↔
      registry.contains name = false) ∧
    (registry.contains name = true →
      Fares (some .forbidden) (serve registry ⟨drawn, .createNetwork arguments⟩).answer)
  deleteUnknown : ∀ drawn,
    Fares (some .notFound) (serve registry ⟨drawn, .deleteNetwork ⟨name⟩⟩).answer ↔
      registry.contains name = false
  delete : ∀ drawn, registry.contains name = true →
    ((serve registry ⟨drawn, .deleteNetwork ⟨name⟩⟩).answer.isOk = true ↔
      Past.count .create name past = Past.count .delete name past)
  inUse : ∀ drawn, registry.contains name = true →
    Past.count .create name past ≠ Past.count .delete name past →
    Past.count .delete name past < Past.count .create name past ∧
    (serve registry ⟨drawn, .deleteNetwork ⟨name⟩⟩).answer =
      .error ⟨some .forbidden, "network " ++ name ++ " has " ++
        String.ofList (Text.encodeNumeral 10
          (Past.count .create name past - Past.count .delete name past)) ++ " endpoints"⟩

structure Listed (registry : Registry) : Prop where
  mem : ∀ name, name ∈ registry.names ↔ registry.contains name = true
  once : registry.names.Nodup
  ordered : registry.names.Pairwise fun one other => one.toUTF8.toList < other.toUTF8.toList

theorem countedBy_of_population {past : Past}
    (known : registry.contains name = true ↔ Past.lastNetworkDeed? name past = some .create)
    (account : population registry name + Past.count .delete name past =
      Past.count .create name past) : CountedBy registry past name := by
  refine ⟨known, ?create, ?deleteUnknown, ?delete, ?inUse⟩
  case create =>
    rintro drawn arguments ipv4 ipv6 rfl read readV6
    have fares := fares_createNetwork registry (readPools_eq_ok.mpr read)
      (readPools_eq_ok.mpr readV6) drawn
    constructor
    · rw [fares.isOk_iff]
      cases registry.contains arguments.network <;> simp
    · intro present
      rwa [if_pos present] at fares
  case deleteUnknown =>
    intro drawn
    refine ⟨fun fares => ?_, fun absent => fares_deleteNetwork_of_absent absent drawn⟩
    by_contra present
    rw [Bool.not_eq_false] at present
    rw [answer_deleteNetwork_of_contains present] at fares
    split at fares <;> cases fares
  case delete =>
    intro drawn present
    rw [answer_deleteNetwork_of_contains present]
    split
    · exact iff_of_true rfl (by omega)
    · exact iff_of_false (by simp [Except.isOk, Except.toBool]) (by omega)
  case inUse =>
    intro drawn present unequal
    have size : population registry name =
        Past.count .create name past - Past.count .delete name past := by omega
    refine ⟨by omega, ?_⟩
    rw [answer_deleteNetwork_of_contains present, if_neg (by omega), size]
    rfl

/-- After every session, the past says whether a network is there and how many endpoints it
has, which is what decides if it can be made and deleted; and those that are there are
listed in order. -/
theorem networks_counted (name : String) (inputs : List Input) :
    CountedBy (run ∅ inputs) (history ∅ inputs) name ∧ Listed (run ∅ inputs) :=
  ⟨countedBy_of_population (run_contains name inputs) (run_population name inputs),
    fun _ => mem_names, Std.ExtTreeMap.nodup_keys, names_ordered _⟩

/-- A network is deleted once its only endpoint is, and made again in another life. -/
example :
    let past := history ∅ [.makeNetwork "blue" "10.0.0.0/30", .makeEndpoint "blue" "one",
      ⟨default, .deleteNetwork ⟨"blue"⟩⟩, ⟨default, .deleteEndpoint ⟨"blue", "one"⟩⟩,
      ⟨default, .deleteNetwork ⟨"blue"⟩⟩, .makeNetwork "blue" "10.0.0.0/30"]
    past.map (·.2.isOk) = [true, true, false, true, true, true] ∧
      Past.count .create "blue" past = 1 ∧ Past.count .delete "blue" past = 1 ∧
      Past.lastNetworkDeed? "blue" past = some .create := by
  decide

end Registry

end NetworkPlugin
