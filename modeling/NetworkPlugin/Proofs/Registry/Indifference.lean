import NetworkPlugin.Proofs.Registry.Commutation
import NetworkPlugin.Proofs.Registry.Likeness
import NetworkPlugin.Proofs.Registry.Reporting

/-!
# What requests are indifferent to

Options, address spaces, the host bits of pools and the prefix lengths of gateways change
nothing: two sessions that differ only in these are answered alike, request by request, and
end with the same endpoints.  Hardware addresses that are drawn may differ as well and are
masked.  What carries the proof is that both registries stay alike but for drawn hardware
addresses, of which the past says which they are.
-/

namespace NetworkPlugin

/-! ## Drawn hardware addresses -/

def Request.draws? (names : String × String) : Request → Option Bool
  | createEndpoint arguments =>
      if (arguments.network, arguments.endpoint) = names then
        some (arguments.interface.getD {}).hardware.isEmpty
      else none
  | _ => none

theorem Interface.isEmpty_hardware {text : Option InterfaceText} {requested : Interface}
    (read : ofText? text = .ok requested) :
    (text.getD {}).hardware.isEmpty = requested.hardware.isNone := by
  rw [ofText?_eq, ofText_eq_ok] at read
  by_cases empty : (text.getD {}).hardware = ""
  · have unset := read.1
    rw [empty] at unset
    rw [empty, ← Except.ok.inj unset]
    rfl
  · have set := isSome_of_readSet read.1 empty
    rw [Option.isNone_eq_false_iff.mpr set]
    simpa using empty

theorem Request.draws?_of_answer {request : Request} {response : Response}
    (planned : request.plan = .answer (.ok response)) (names : String × String) :
    request.draws? names = none := by
  have unneeded := Request.needsEngine_of_answer planned
  cases request <;> first | rfl | cases unneeded

namespace Past

def drew (past : Past) (names : String × String) : Bool :=
  (done (Request.draws? names) past).getLast?.getD false

theorem drew_append (past : Past) (entry : Request × Except Failure Response)
    (names : String × String) :
    drew (past ++ [entry]) names =
      (if entry.2.isOk then entry.1.draws? names else none).getD (drew past names) := by
  unfold drew
  rw [done_append, List.getLast?_append]
  generalize (if entry.2.isOk then entry.1.draws? names else none) = drawn
  cases drawn <;> simp

end Past

def mask : String := "*"

/-- An endpoint without its hardware address, if that was drawn. -/
def Endpoint.masked (drew : Bool) (endpoint : Endpoint) : Endpoint :=
  if drew then { endpoint with hardware := default } else endpoint

def InterfaceText.masked (text : InterfaceText) : InterfaceText :=
  { text with hardware := if text.hardware.isEmpty then text.hardware else mask }

/-- A response without drawn hardware addresses, when it is for an endpoint of which that
address was drawn or was not. -/
def Response.masked (drew : Bool) : Response → Response
  | endpoint value => .endpoint ⟨value.interface.map InterfaceText.masked⟩
  | report value =>
      .report ⟨if drew then value.value.insert "mac_address" mask else value.value⟩
  | response => response

theorem Reports.insert_hardware {report other : Dictionary String} {names : String × String}
    {hardware hardwareToo ipv4 ipv6 sandbox : Option String}
    (reports : Reports report names hardware ipv4 ipv6 sandbox)
    (reportsToo : Reports other names hardwareToo ipv4 ipv6 sandbox) (text : String) :
    report.insert "mac_address" text = other.insert "mac_address" text := by
  apply Std.ExtTreeMap.ext_getElem?
  intro field
  rw [Dictionary.getElem?_insert, Dictionary.getElem?_insert]
  split
  · rfl
  · next different =>
      by_cases listed : field ∈
          ["id", "network_id", "mac_address", "address", "address_ipv6", "sandbox_key"]
      · simp only [List.mem_cons, List.not_mem_nil, or_false] at listed
        rcases listed with rfl | rfl | rfl | rfl | rfl | rfl
        · exact reports.id.trans reportsToo.id.symm
        · exact reports.network.trans reportsToo.network.symm
        · exact absurd rfl different
        · exact reports.ipv4.trans reportsToo.ipv4.symm
        · exact reports.ipv6.trans reportsToo.ipv6.symm
        · exact reports.sandbox.trans reportsToo.sandbox.symm
      · exact (reports.others field listed).trans (reportsToo.others field listed).symm

namespace Endpoint

variable {drew : Bool} {one other : Endpoint}

theorem address_masked (drew : Bool) (endpoint : Endpoint) (family : Family) :
    (endpoint.masked drew).address family = endpoint.address family := by
  cases drew <;> cases family <;> rfl

theorem held_masked (drew : Bool) (endpoint : Endpoint) (family : Family) :
    (endpoint.masked drew).held family = endpoint.held family := by
  unfold held
  rw [address_masked]

theorem address_of_masked (same : one.masked drew = other.masked drew) (family : Family) :
    one.address family = other.address family := by
  rw [← address_masked drew one, same, address_masked]

theorem sandbox_of_masked (same : one.masked drew = other.masked drew) :
    one.sandbox = other.sandbox := by
  have sandbox := congrArg Endpoint.sandbox same
  cases drew <;> exact sandbox

theorem masked_setSandbox (same : one.masked drew = other.masked drew)
    (sandbox : Option String) :
    masked drew { one with sandbox } = masked drew { other with sandbox } := by
  have changed := congrArg (fun endpoint : Endpoint => { endpoint with sandbox }) same
  cases drew <;> exact changed

theorem report_masked (same : one.masked drew = other.masked drew) (names : String × String) :
    (Response.report ⟨one.report names.1 names.2⟩).masked drew =
      (Response.report ⟨other.report names.1 names.2⟩).masked drew := by
  cases drew with
  | false =>
      cases same
      rfl
  | true =>
      have ipv4 := address_of_masked same .v4
      have ipv6 := address_of_masked same .v6
      have sandbox := sandbox_of_masked same
      have reports := one.reports_report names
      simp only [address] at ipv4 ipv6
      rw [ipv4, ipv6, sandbox] at reports
      have inserted := reports.insert_hardware (other.reports_report names) mask
      simp only [Response.masked, if_true, inserted]

theorem assignedPart_masked {requested : Interface}
    (same : one.masked requested.hardware.isNone = other.masked requested.hardware.isNone) :
    (one.assignedPart requested).toText.masked = (other.assignedPart requested).toText.masked := by
  cases asked : requested.hardware with
  | some hardware =>
      rw [asked] at same
      cases same
      rfl
  | none =>
      rw [asked] at same
      have ipv4 := address_of_masked same .v4
      have ipv6 := address_of_masked same .v6
      simp only [address] at ipv4 ipv6
      simp [assignedPart, InterfaceText.masked, Interface.toText, Interface.writeSet, asked, ipv4,
        ipv6, HardwareAddress.isEmpty_render]

end Endpoint

/-! ## Failures and answers -/

/-- Failures of one kind that say the same, but for the host bits of a pool that they print. -/
inductive Failure.Alike : Failure → Failure → Prop
  | same (failure : Failure) : Alike failure failure
  | pool {kind : Option FailureKind} {start : String} {family : Family}
      {pool other : Subnet family} (block : pool.block = other.block) :
      Alike ⟨kind, start ++ pool.render⟩ ⟨kind, start ++ other.render⟩

theorem Refusal.Alike.failure {refusal other : Refusal} (alike : refusal.Alike other) :
    refusal.failure.Alike other.failure := by
  cases alike with
  | same => exact .same _
  | notAHost address block => exact .pool block
  | poolExhausted block => exact .pool block

inductive AlikeAnswers (drew : Bool) :
    Except Failure Response → Except Failure Response → Prop
  | ok {response other : Response} (same : response.masked drew = other.masked drew) :
      AlikeAnswers drew (.ok response) (.ok other)
  | error {failure other : Failure} (alike : failure.Alike other) :
      AlikeAnswers drew (.error failure) (.error other)

/-! ## Requests that differ in ignored data -/

structure NetworkArguments.Resembles {Setting : Type}
    (arguments others : NetworkArguments Setting) : Prop where
  network : arguments.network = others.network
  ipv4 : List.Forall₂ PoolEntry.Resembles arguments.ipv4 others.ipv4
  ipv6 : List.Forall₂ PoolEntry.Resembles arguments.ipv6 others.ipv6

theorem PoolEntry.Resembles.refl (entry : PoolEntry) : entry.Resembles entry :=
  ⟨.inl rfl, .inl rfl, rfl⟩

theorem NetworkArguments.Resembles.refl {Setting : Type} (arguments : NetworkArguments Setting) :
    arguments.Resembles arguments :=
  ⟨rfl, List.forall₂_same.mpr fun entry _ => .refl entry,
    List.forall₂_same.mpr fun entry _ => .refl entry⟩

/-- Requests that differ at most in options and in what pools do not depend on. -/
inductive Request.Resembles : Request → Request → Prop
  | same (request : Request) : Resembles request request
  | createNetwork {arguments others : NetworkArguments Json}
      (resemble : arguments.Resembles others) :
      Resembles (.createNetwork arguments) (.createNetwork others)
  | allocateNetwork {arguments others : NetworkArguments String}
      (resemble : arguments.Resembles others) :
      Resembles (.allocateNetwork arguments) (.allocateNetwork others)
  | createEndpoint (arguments : EndpointArguments) (options : Options) :
      Resembles (.createEndpoint arguments) (.createEndpoint { arguments with options })
  | join (arguments : JoinArguments) (options : Options) :
      Resembles (.join arguments) (.join { arguments with options })
  | programExternalConnectivity (arguments : ConnectivityArguments) (options : Options) :
      Resembles (.programExternalConnectivity arguments)
        (.programExternalConnectivity { arguments with options })

/-! ## Alike registries -/

structure Network.Resembles (network other : Network) : Prop where
  ipv4 : List.Forall₂ Pool.Resembles network.ipv4 other.ipv4
  ipv6 : List.Forall₂ Pool.Resembles network.ipv6 other.ipv6

namespace Network

variable {owner other : Network}

theorem Resembles.pools (resembles : owner.Resembles other) (family : Family) :
    List.Forall₂ Pool.Resembles (owner.pools family) (other.pools family) := by
  cases family with
  | v4 => exact resembles.ipv4
  | v6 => exact resembles.ipv6

theorem Resembles.kept_eq (resembles : owner.Resembles other) (family : Family) :
    owner.kept family = other.kept family := by
  unfold kept
  rw [List.flatMap_append, List.flatMap_append]
  congr 1
  · exact flatMap_eq_of_forall₂ resembles.ipv4 fun _ _ alike => alike.kept_eq family
  · exact flatMap_eq_of_forall₂ resembles.ipv6 fun _ _ alike => alike.kept_eq family

theorem Resembles.attachment_eq (resembles : owner.Resembles other) (endpoint : String) :
    owner.attachment endpoint = other.attachment endpoint := by
  have gateways (family : Family) : owner.gateway? family = other.gateway? family :=
    findSome?_eq_of_forall₂ (resembles.pools family) fun _ _ alike => alike.gateway_eq family
  simp only [attachment, gateways]

theorem mem_held_of_masked {family : Family} {address : Address family}
    (same : ∀ name : String, ∃ drew,
      owner.endpoints[name]?.map (Endpoint.masked drew) =
        other.endpoints[name]?.map (Endpoint.masked drew))
    (held : address ∈ owner.held family) : address ∈ other.held family := by
  obtain ⟨name, value, stored, holds⟩ := mem_held.mp held
  obtain ⟨drew, masked⟩ := same name
  rw [stored, Option.map_some, eq_comm, Option.map_eq_some_iff] at masked
  obtain ⟨valueToo, storedToo, masked⟩ := masked
  refine mem_held.mpr ⟨name, valueToo, storedToo, ?_⟩
  rw [← Endpoint.held_masked drew, masked, Endpoint.held_masked, holds]

end Network

namespace AlikeResults

theorem bind {Value Next : Type} {R : Value → Value → Prop} {S : Next → Next → Prop}
    {one other : Except Refusal Value} (alike : AlikeResults R one other)
    {f g : Value → Except Refusal Next}
    (next : ∀ value another, R value another → AlikeResults S (f value) (g another)) :
    AlikeResults S (one >>= f) (other >>= g) := by
  cases alike with
  | ok related => exact next _ _ related
  | error refusal => exact .error refusal

end AlikeResults

namespace Registry

variable {drew : String × String → Bool} {one other : Registry} {network endpoint : String}
  {owner ownerToo : Network}

/-- Registries that are alike but for the hardware addresses that were drawn. -/
structure Alike (drew : String × String → Bool) (one other : Registry) : Prop where
  networks : ∀ name : String, Option.Rel Network.Resembles one[name]? other[name]?
  endpoints : ∀ names : String × String,
    (endpoint? one names.1 names.2).map (Endpoint.masked (drew names)) =
      (endpoint? other names.1 names.2).map (Endpoint.masked (drew names))

namespace Alike

theorem none_iff (alike : Alike drew one other) (network : String) :
    one[network]? = none ↔ other[network]? = none := by
  have related := alike.networks network
  generalize one[network]? = found at related
  generalize other[network]? = foundToo at related
  cases related <;> simp

theorem resembles (alike : Alike drew one other) (stored : one[network]? = some owner)
    (storedToo : other[network]? = some ownerToo) : owner.Resembles ownerToo := by
  have related := alike.networks network
  rw [stored, storedToo] at related
  cases related with
  | some resembles => exact resembles

theorem endpoint_eq (alike : Alike drew one other) (stored : one[network]? = some owner)
    (storedToo : other[network]? = some ownerToo) (endpoint : String) :
    owner.endpoints[endpoint]?.map (Endpoint.masked (drew (network, endpoint))) =
      ownerToo.endpoints[endpoint]?.map (Endpoint.masked (drew (network, endpoint))) := by
  have same := alike.endpoints (network, endpoint)
  rwa [endpoint?_of_some stored, endpoint?_of_some storedToo] at same

theorem exists_of_some (alike : Alike drew one other) (stored : one[network]? = some owner) :
    ∃ ownerToo, other[network]? = some ownerToo := by
  apply Option.ne_none_iff_exists'.mp
  rw [Ne, ← alike.none_iff, stored]
  simp

theorem map_endpoints_eq (alike : Alike drew one other) (stored : one[network]? = some owner)
    (storedToo : other[network]? = some ownerToo) :
    (owner.endpoints.map fun endpoint value => value.masked (drew (network, endpoint))) =
      ownerToo.endpoints.map fun endpoint value => value.masked (drew (network, endpoint)) := by
  apply Std.ExtTreeMap.ext_getElem?
  intro endpoint
  rw [Std.ExtTreeMap.getElem?_map, Std.ExtTreeMap.getElem?_map]
  exact alike.endpoint_eq stored storedToo endpoint

theorem size_eq (alike : Alike drew one other) (stored : one[network]? = some owner)
    (storedToo : other[network]? = some ownerToo) :
    owner.endpoints.size = ownerToo.endpoints.size := by
  have sizes := congrArg Std.ExtTreeMap.size (alike.map_endpoints_eq stored storedToo)
  rwa [Std.ExtTreeMap.size_map, Std.ExtTreeMap.size_map] at sizes

/-! ### Changes -/

theorem insert (alike : Alike drew one other) (resembles : owner.Resembles ownerToo)
    {d : String × String → Bool}
    (endpoints : ∀ names : String × String,
      (endpoint? (one.insert network owner) names.1 names.2).map (Endpoint.masked (d names)) =
        (endpoint? (other.insert network ownerToo) names.1 names.2).map
          (Endpoint.masked (d names))) :
    Alike d (one.insert network owner) (other.insert network ownerToo) := by
  refine ⟨fun name => ?_, endpoints⟩
  rw [Dictionary.getElem?_insert, Dictionary.getElem?_insert]
  split
  · exact .some resembles
  · exact alike.networks name

theorem insert_empty (alike : Alike drew one other) (absent : one[network]? = none)
    (absentToo : other[network]? = none) {ipv4 ipv6 poolsV4 poolsV6 : List Pool}
    (same : List.Forall₂ Pool.Resembles ipv4 poolsV4)
    (sameV6 : List.Forall₂ Pool.Resembles ipv6 poolsV6) :
    Alike drew (one.insert network { ipv4, ipv6 })
      (other.insert network { ipv4 := poolsV4, ipv6 := poolsV6 }) := by
  refine alike.insert ⟨same, sameV6⟩ fun names => ?_
  rw [endpoint?_insert_empty absent rfl, endpoint?_insert_empty absentToo rfl]
  exact alike.endpoints names

theorem erase_empty (alike : Alike drew one other) (stored : one[network]? = some owner)
    (empty : owner.endpoints = ∅) (storedToo : other[network]? = some ownerToo)
    (emptyToo : ownerToo.endpoints = ∅) :
    Alike drew (one.erase network) (other.erase network) := by
  constructor
  · intro name
    rw [Dictionary.getElem?_erase, Dictionary.getElem?_erase]
    split
    · exact .none
    · exact alike.networks name
  · intro names
    rw [endpoint?_erase_empty stored empty, endpoint?_erase_empty storedToo emptyToo]
    exact alike.endpoints names

theorem putEndpoint (alike : Alike drew one other) (stored : one[network]? = some owner)
    (storedToo : other[network]? = some ownerToo) {d : String × String → Bool}
    (others : ∀ names, (network, endpoint) ≠ names → d names = drew names)
    {value valueToo : Endpoint}
    (same : value.masked (d (network, endpoint)) = valueToo.masked (d (network, endpoint))) :
    Alike d (one.putEndpoint network endpoint owner value)
      (other.putEndpoint network endpoint ownerToo valueToo) := by
  have resembles := alike.resembles stored storedToo
  refine alike.insert ?_ fun names => ?_
  · exact ⟨resembles.ipv4, resembles.ipv6⟩
  refine (congrArg _ (endpoint?_putEndpoint stored endpoint value names)).trans ?_
  refine Eq.trans ?_ (congrArg _ (endpoint?_putEndpoint storedToo endpoint valueToo names)).symm
  split
  · next here =>
      subst here
      exact congrArg some same
  · next elsewhere =>
      rw [others names elsewhere]
      exact alike.endpoints names

theorem dropEndpoint (alike : Alike drew one other) (stored : one[network]? = some owner)
    (storedToo : other[network]? = some ownerToo) :
    Alike drew (one.dropEndpoint network endpoint owner)
      (other.dropEndpoint network endpoint ownerToo) := by
  have resembles := alike.resembles stored storedToo
  refine alike.insert ?_ fun names => ?_
  · exact ⟨resembles.ipv4, resembles.ipv6⟩
  refine (congrArg _ (endpoint?_dropEndpoint stored endpoint names)).trans ?_
  refine Eq.trans ?_ (congrArg _ (endpoint?_dropEndpoint storedToo endpoint names)).symm
  split
  · rfl
  · exact alike.endpoints names

/-! ### New endpoints -/

theorem mem_used_iff (alike : Alike drew one other) (stored : one[network]? = some owner)
    (storedToo : other[network]? = some ownerToo) {family : Family} (address : Address family) :
    address ∈ owner.used family ↔ address ∈ ownerToo.used family := by
  have same := alike.endpoint_eq stored storedToo
  simp only [Network.used, List.mem_append, (alike.resembles stored storedToo).kept_eq]
  refine or_congr Iff.rfl ⟨Network.mem_held_of_masked fun name => ⟨_, same name⟩,
    Network.mem_held_of_masked fun name => ⟨_, (same name).symm⟩⟩

theorem newEndpoint (alike : Alike drew one other) (stored : one[network]? = some owner)
    (storedToo : other[network]? = some ownerToo) (requested : Interface)
    (drawn drawnToo : HardwareAddress) :
    AlikeResults
      (fun value another => value.masked requested.hardware.isNone =
        another.masked requested.hardware.isNone)
      (owner.newEndpoint requested drawn) (ownerToo.newEndpoint requested drawnToo) := by
  have assigned (family : Family) (wanted : Option (Subnet family)) :=
    Assignment.assign_alike
      (Pool.rel_subnets ((alike.resembles stored storedToo).pools family) family)
      (alike.mem_used_iff stored storedToo) wanted
  unfold Network.newEndpoint
  refine (assigned .v4 _).bind fun ipv4 _ same => ?_
  refine (assigned .v6 _).bind fun ipv6 _ sameV6 => ?_
  subst same
  subst sameV6
  refine .ok ?_
  cases requested.hardware <;> rfl

end Alike

/-! ### Looking up -/

inductive Finds (drew : String × String → Bool) (one other : Registry)
    (network endpoint : String) : Prop
  | noNetwork (missing : one[network]? = none) (missingToo : other[network]? = none)
  | noEndpoint {owner ownerToo : Network} (stored : one[network]? = some owner)
      (storedToo : other[network]? = some ownerToo) (absent : owner.endpoints[endpoint]? = none)
      (absentToo : ownerToo.endpoints[endpoint]? = none)
  | present {owner ownerToo : Network} {value valueToo : Endpoint}
      (stored : one[network]? = some owner) (storedToo : other[network]? = some ownerToo)
      (found : owner.endpoints[endpoint]? = some value)
      (foundToo : ownerToo.endpoints[endpoint]? = some valueToo)
      (same : value.masked (drew (network, endpoint)) =
        valueToo.masked (drew (network, endpoint)))

theorem Alike.finds (alike : Alike drew one other) (network endpoint : String) :
    Finds drew one other network endpoint := by
  cases stored : one[network]? with
  | none => exact .noNetwork stored ((alike.none_iff network).mp stored)
  | some owner =>
      cases storedToo : other[network]? with
      | none =>
          rw [(alike.none_iff network).mpr storedToo] at stored
          cases stored
      | some ownerToo =>
          have same := alike.endpoint_eq stored storedToo endpoint
          cases found : owner.endpoints[endpoint]? with
          | none =>
              rw [found, Option.map_none, eq_comm, Option.map_eq_none_iff] at same
              exact .noEndpoint stored storedToo found same
          | some value =>
              rw [found, Option.map_some, eq_comm, Option.map_eq_some_iff] at same
              obtain ⟨valueToo, foundToo, same⟩ := same
              exact .present stored storedToo found foundToo same.symm

/-! ## One request -/

structure AlikeTurns (drew : String × String → Bool) (request : Request)
    (one other : Turn Registry (Except Failure Response)) : Prop where
  answers : AlikeAnswers (request.endpointNames?.any drew) one.answer other.answer
  states : Alike
    (fun names => (if one.answer.isOk then request.draws? names else none).getD (drew names))
    one.state other.state

section

variable {drawn drawnToo : HardwareAddress} {request requestToo : Request} {call callToo : Call}
  {respond : call.Reply → Response} {respondToo : callToo.Reply → Response}

theorem alikeTurns_of_refused (alike : Alike drew one other)
    (planned : request.plan = .ask call respond)
    (plannedToo : requestToo.plan = .ask callToo respondToo) {refusal refusalToo : Refusal}
    (same : refusal.Alike refusalToo) (refused : Refuses drawn one call refusal)
    (refusedToo : Refuses drawnToo other callToo refusalToo) :
    AlikeTurns drew request (serve one ⟨drawn, request⟩) (serve other ⟨drawnToo, requestToo⟩) := by
  rw [serve_of_refuses planned refused, serve_of_refuses plannedToo refusedToo]
  exact ⟨.error same.failure, alike⟩

theorem alikeTurns_of_granted {turn : Turn Registry call.Reply}
    {turnToo : Turn Registry callToo.Reply} (planned : request.plan = .ask call respond)
    (plannedToo : requestToo.plan = .ask callToo respondToo)
    (granted : Grants drawn one call turn)
    (grantedToo : Grants drawnToo other callToo turnToo)
    (answers : (respond turn.answer).masked (request.endpointNames?.any drew) =
      (respondToo turnToo.answer).masked (request.endpointNames?.any drew))
    (states : Alike (fun names => (request.draws? names).getD (drew names)) turn.state
      turnToo.state) :
    AlikeTurns drew request (serve one ⟨drawn, request⟩) (serve other ⟨drawnToo, requestToo⟩) := by
  rw [serve_of_grants planned granted, serve_of_grants plannedToo grantedToo]
  exact ⟨.ok answers, states⟩

theorem alikeTurns_of_known (alike : Alike drew one other) {result : Except Failure Response}
    (planned : request.plan = .answer result)
    (plannedToo : requestToo.plan = .answer result) :
    AlikeTurns drew request (serve one ⟨drawn, request⟩) (serve other ⟨drawnToo, requestToo⟩) := by
  rw [serve_of_answer planned, serve_of_answer plannedToo]
  cases result with
  | error failure => exact ⟨.error (.same failure), alike⟩
  | ok response =>
      have undrawn := Request.draws?_of_answer planned
      refine ⟨.ok rfl, ?_⟩
      simpa only [undrawn, ite_self, Option.getD_none] using alike

end

/-! ### Requests for networks -/

section

variable (alike : Alike drew one other) (drawn drawnToo : HardwareAddress)

include alike

theorem serve_createNetwork_alike {arguments others : NetworkArguments Json}
    (resemble : arguments.Resembles others) :
    AlikeTurns drew (.createNetwork arguments) (serve one ⟨drawn, .createNetwork arguments⟩)
      (serve other ⟨drawnToo, .createNetwork others⟩) := by
  obtain ⟨network, options, entries, entriesV6⟩ := arguments
  obtain ⟨_, optionsToo, entriesToo, entriesV6Too⟩ := others
  obtain ⟨rfl, ipv4, ipv6⟩ := resemble
  have same := readPools_same ipv4 .v4
  have sameV6 := readPools_same ipv6 .v6
  cases read : readPools .v4 entries with
  | error failure =>
      have readToo := same.error_eq read
      have planned : (Request.createNetwork ⟨network, options, entries, entriesV6⟩).plan =
          .answer (.error failure) := by simp only [Request.plan, read]
      have plannedToo :
          (Request.createNetwork ⟨network, optionsToo, entriesToo, entriesV6Too⟩).plan =
            .answer (.error failure) := by simp only [Request.plan, readToo]
      exact alikeTurns_of_known alike planned plannedToo
  | ok pools =>
      obtain ⟨poolsToo, readToo, resemble⟩ := same.exists_ok read
      cases readV6 : readPools .v6 entriesV6 with
      | error failure =>
          have readV6Too := sameV6.error_eq readV6
          have planned : (Request.createNetwork ⟨network, options, entries, entriesV6⟩).plan =
              .answer (.error failure) := by simp only [Request.plan, read, readV6]
          have plannedToo :
              (Request.createNetwork ⟨network, optionsToo, entriesToo, entriesV6Too⟩).plan =
                .answer (.error failure) := by simp only [Request.plan, readToo, readV6Too]
          exact alikeTurns_of_known alike planned plannedToo
      | ok poolsV6 =>
          obtain ⟨poolsV6Too, readV6Too, resembleV6⟩ := sameV6.exists_ok readV6
          have planned := (@Asks.createNetwork ⟨network, options, entries, entriesV6⟩ _ _ read
            readV6).plan_eq
          have plannedToo := (@Asks.createNetwork ⟨network, optionsToo, entriesToo, entriesV6Too⟩
            _ _ readToo readV6Too).plan_eq
          cases stored : one[network]? with
          | none =>
              have absentToo := (alike.none_iff _).mp stored
              exact alikeTurns_of_granted planned plannedToo (.networkCreated stored)
                (.networkCreated absentToo) rfl
                (alike.insert_empty stored absentToo resemble resembleV6)
          | some owner =>
              obtain ⟨ownerToo, storedToo⟩ := alike.exists_of_some stored
              exact alikeTurns_of_refused alike planned plannedToo (.same _)
                (.networkExists stored) (.networkExists storedToo)

theorem serve_deleteNetwork_alike (arguments : NetworkRef) :
    AlikeTurns drew (.deleteNetwork arguments) (serve one ⟨drawn, .deleteNetwork arguments⟩)
      (serve other ⟨drawnToo, .deleteNetwork arguments⟩) := by
  have planned := (@Asks.deleteNetwork arguments).plan_eq
  cases stored : one[arguments.network]? with
  | none =>
      have missingToo := (alike.none_iff _).mp stored
      exact alikeTurns_of_refused alike planned planned (.same _) (.networkUnknown rfl stored)
        (.networkUnknown rfl missingToo)
  | some owner =>
      obtain ⟨ownerToo, storedToo⟩ := alike.exists_of_some stored
      have size := alike.size_eq stored storedToo
      by_cases empty : owner.endpoints = ∅
      · have emptyToo : ownerToo.endpoints = ∅ := by
          rw [Std.ExtTreeMap.eq_empty_iff_size_eq_zero] at empty ⊢
          exact size.symm.trans empty
        exact alikeTurns_of_granted planned planned (.networkDeleted stored empty)
          (.networkDeleted storedToo emptyToo) rfl
          (alike.erase_empty stored empty storedToo emptyToo)
      · have inUseToo : ownerToo.endpoints ≠ ∅ := by
          rwa [Std.ExtTreeMap.eq_empty_iff_size_eq_zero, size,
            ← Std.ExtTreeMap.eq_empty_iff_size_eq_zero] at empty
        refine alikeTurns_of_refused alike planned planned ?_ (.networkInUse stored empty)
          (.networkInUse storedToo inUseToo)
        rw [size]
        exact .same _

end

/-! ### Requests for endpoints -/

theorem alikeTurns_of_present (alike : Alike drew one other) {drawn drawnToo : HardwareAddress}
    {request requestToo : Request} {call callToo : Call} {respond : call.Reply → Response}
    {respondToo : callToo.Reply → Response} (planned : request.plan = .ask call respond)
    (plannedToo : requestToo.plan = .ask callToo respondToo)
    (needed : call.knownEndpoint? = some endpoint)
    (neededToo : callToo.knownEndpoint? = some endpoint) (here : callToo.network = call.network)
    (present : ∀ {owner ownerToo : Network} {value valueToo : Endpoint},
      one[call.network]? = some owner → other[call.network]? = some ownerToo →
      owner.endpoints[endpoint]? = some value → ownerToo.endpoints[endpoint]? = some valueToo →
      value.masked (drew (call.network, endpoint)) =
        valueToo.masked (drew (call.network, endpoint)) →
      AlikeTurns drew request (serve one ⟨drawn, request⟩) (serve other ⟨drawnToo, requestToo⟩)) :
    AlikeTurns drew request (serve one ⟨drawn, request⟩) (serve other ⟨drawnToo, requestToo⟩) := by
  have finds {call : Call} (needed : call.knownEndpoint? = some endpoint) :
      call.makesNetwork = false := by
    cases call <;> first | rfl | cases needed
  cases alike.finds call.network endpoint with
  | noNetwork missing missingToo =>
      refine alikeTurns_of_refused alike planned plannedToo ?_
        (.networkUnknown (finds needed) missing)
        (.networkUnknown (finds neededToo) (here ▸ missingToo))
      rw [here]
      exact .same _
  | noEndpoint stored storedToo absent absentToo =>
      refine alikeTurns_of_refused alike planned plannedToo ?_
        (.endpointUnknown needed stored absent)
        (.endpointUnknown neededToo (here ▸ storedToo) absentToo)
      rw [here]
      exact .same _
  | present stored storedToo found foundToo same =>
      exact present stored storedToo found foundToo same

section

variable (alike : Alike drew one other) (drawn drawnToo : HardwareAddress)

include alike

theorem serve_deleteEndpoint_alike (arguments : EndpointRef) :
    AlikeTurns drew (.deleteEndpoint arguments)
      (serve one ⟨drawn, .deleteEndpoint arguments⟩)
      (serve other ⟨drawnToo, .deleteEndpoint arguments⟩) := by
  have planned := (@Asks.deleteEndpoint arguments).plan_eq
  refine alikeTurns_of_present alike planned planned rfl rfl rfl ?_
  intro owner ownerToo value valueToo stored storedToo found foundToo same
  have sandbox := Endpoint.sandbox_of_masked same
  cases state : value.sandbox with
  | none =>
      exact alikeTurns_of_granted planned planned (.endpointDeleted stored found state)
        (.endpointDeleted storedToo foundToo (sandbox.symm.trans state)) rfl
        (alike.dropEndpoint stored storedToo)
  | some current =>
      exact alikeTurns_of_refused alike planned planned (.same _)
        (.stillJoined stored found state)
        (.stillJoined storedToo foundToo (sandbox.symm.trans state))

theorem serve_endpointInfo_alike (arguments : EndpointRef) :
    AlikeTurns drew (.endpointInfo arguments) (serve one ⟨drawn, .endpointInfo arguments⟩)
      (serve other ⟨drawnToo, .endpointInfo arguments⟩) := by
  have planned := (@Asks.endpointInfo arguments).plan_eq
  refine alikeTurns_of_present alike planned planned rfl rfl rfl ?_
  intro owner ownerToo value valueToo stored storedToo found foundToo same
  refine alikeTurns_of_granted planned planned (.endpointReported stored found)
    (.endpointReported storedToo foundToo) ?_ alike
  exact Endpoint.report_masked same (arguments.network, arguments.endpoint)

theorem serve_join_alike (arguments : JoinArguments) (options : Options) :
    AlikeTurns drew (.join arguments) (serve one ⟨drawn, .join arguments⟩)
      (serve other ⟨drawnToo, .join { arguments with options }⟩) := by
  have planned := (@Asks.join arguments).plan_eq
  have plannedToo := (@Asks.join { arguments with options }).plan_eq
  refine alikeTurns_of_present alike planned plannedToo rfl rfl rfl ?_
  intro owner ownerToo value valueToo stored storedToo found foundToo same
  have sandbox := Endpoint.sandbox_of_masked same
  cases state : value.sandbox with
  | none =>
      refine alikeTurns_of_granted planned plannedToo (.joined stored found state)
        (.joined storedToo foundToo (sandbox.symm.trans state)) ?_ ?_
      · dsimp only
        rw [(alike.resembles stored storedToo).attachment_eq]
      · exact alike.putEndpoint stored storedToo (fun _ _ => rfl)
          (Endpoint.masked_setSandbox same _)
  | some current =>
      exact alikeTurns_of_refused alike planned plannedToo (.same _)
        (.alreadyJoined stored found state)
        (.alreadyJoined storedToo foundToo (sandbox.symm.trans state))

theorem serve_leave_alike (arguments : EndpointRef) :
    AlikeTurns drew (.leave arguments) (serve one ⟨drawn, .leave arguments⟩)
      (serve other ⟨drawnToo, .leave arguments⟩) := by
  have planned := (@Asks.leave arguments).plan_eq
  refine alikeTurns_of_present alike planned planned rfl rfl rfl ?_
  intro owner ownerToo value valueToo stored storedToo found foundToo same
  have sandbox := Endpoint.sandbox_of_masked same
  cases state : value.sandbox with
  | none =>
      exact alikeTurns_of_refused alike planned planned (.same _) (.notJoined stored found state)
        (.notJoined storedToo foundToo (sandbox.symm.trans state))
  | some current =>
      exact alikeTurns_of_granted planned planned (.left stored found state)
        (.left storedToo foundToo (sandbox.symm.trans state)) rfl
        (alike.putEndpoint stored storedToo (fun _ _ => rfl)
          (Endpoint.masked_setSandbox same none))

theorem serve_createEndpoint_alike (arguments : EndpointArguments) (options : Options) :
    AlikeTurns drew (.createEndpoint arguments) (serve one ⟨drawn, .createEndpoint arguments⟩)
      (serve other ⟨drawnToo, .createEndpoint { arguments with options }⟩) := by
  obtain ⟨network, endpoint, interface, optionsHere⟩ := arguments
  cases read : readInterface ⟨network, endpoint, interface, optionsHere⟩ with
  | error failure =>
      have planned (options : Options) :
          (Request.createEndpoint ⟨network, endpoint, interface, options⟩).plan =
            .answer (.error failure) := by
        have readToo : readInterface ⟨network, endpoint, interface, options⟩ = .error failure :=
          read
        simp only [Request.plan, readToo]
      exact alikeTurns_of_known alike (planned optionsHere) (planned options)
  | ok requested =>
      have planned := (Asks.createEndpoint read).plan_eq
      have plannedToo :=
        (@Asks.createEndpoint ⟨network, endpoint, interface, options⟩ _ read).plan_eq
      cases alike.finds network endpoint with
      | noNetwork missing missingToo =>
          exact alikeTurns_of_refused alike planned plannedToo (.same _)
            (.networkUnknown rfl missing) (.networkUnknown rfl missingToo)
      | present stored storedToo found foundToo same =>
          exact alikeTurns_of_refused alike planned plannedToo (.same _)
            (.endpointExists stored found) (.endpointExists storedToo foundToo)
      | @noEndpoint owner ownerToo stored storedToo absent absentToo =>
          have assigned := alike.newEndpoint stored storedToo requested drawn drawnToo
          generalize made : owner.newEndpoint requested drawn = result at assigned
          generalize madeToo : ownerToo.newEndpoint requested drawnToo = resultToo at assigned
          cases assigned with
          | error refusal =>
              exact alikeTurns_of_refused alike planned plannedToo refusal
                (.notAssigned stored absent made) (.notAssigned storedToo absentToo madeToo)
          | ok same =>
              refine alikeTurns_of_granted planned plannedToo
                (.endpointCreated stored absent made) (.endpointCreated storedToo absentToo madeToo)
                ?answers ?states
              case answers =>
                exact congrArg (fun text => Response.endpoint ⟨some text⟩)
                  (Endpoint.assignedPart_masked same)
              case states =>
                refine alike.putEndpoint stored storedToo ?_ ?_
                · intro names elsewhere
                  simp [Request.draws?, elsewhere]
                · rw [readInterface, Except.mapError_eq_ok] at read
                  simpa [Request.draws?, Interface.isEmpty_hardware read] using same

end

theorem serve_alike (alike : Alike drew one other) {first second : Input}
    (resemble : first.request.Resembles second.request) :
    AlikeTurns drew first.request (serve one first) (serve other second) := by
  obtain ⟨drawn, request⟩ := first
  obtain ⟨drawnToo, requestToo⟩ := second
  cases resemble with
  | same =>
      cases request with
      | createNetwork arguments =>
          exact serve_createNetwork_alike alike drawn drawnToo (.refl arguments)
      | deleteNetwork arguments => exact serve_deleteNetwork_alike alike drawn drawnToo arguments
      | createEndpoint arguments =>
          exact serve_createEndpoint_alike alike drawn drawnToo arguments arguments.options
      | deleteEndpoint arguments => exact serve_deleteEndpoint_alike alike drawn drawnToo arguments
      | endpointInfo arguments => exact serve_endpointInfo_alike alike drawn drawnToo arguments
      | join arguments =>
          exact serve_join_alike alike drawn drawnToo arguments arguments.options
      | leave arguments => exact serve_leave_alike alike drawn drawnToo arguments
      | getCapabilities | allocateNetwork | freeNetwork | discoverNew | discoverDelete
      | programExternalConnectivity | revokeExternalConnectivity =>
          exact alikeTurns_of_known alike rfl rfl
  | createNetwork resemble => exact serve_createNetwork_alike alike drawn drawnToo resemble
  | createEndpoint arguments options =>
      exact serve_createEndpoint_alike alike drawn drawnToo arguments options
  | join arguments options => exact serve_join_alike alike drawn drawnToo arguments options
  | allocateNetwork | programExternalConnectivity => exact alikeTurns_of_known alike rfl rfl

/-! ## Sessions -/

theorem run_alike {inputs others : List Input} {past : Past}
    (resemble : List.Forall₂ (fun input another => input.request.Resembles another.request)
      inputs others) (alike : Alike past.drew one other) :
    Alike (Past.drew (past ++ history one inputs)) (run one inputs) (run other others) := by
  induction resemble generalizing one other past with
  | nil => simpa [history, Session.turns, run, Session.final] using alike
  | @cons input another inputs others first rest ih =>
      have states := (serve_alike alike first).states
      have next : Past.drew (past ++ [(input.request, (serve one input).answer)]) =
          fun names => (if (serve one input).answer.isOk then input.request.draws? names
            else none).getD (past.drew names) :=
        funext fun names => Past.drew_append past _ names
      rw [← next] at states
      have later := ih states
      rwa [List.append_assoc, List.singleton_append, ← history_cons] at later

theorem alike_empty (drew : String × String → Bool) : Alike drew ∅ ∅ := by
  constructor
  · intro name
    simp
  · intro names
    rfl

def maskedEndpoints (drew : String × String → Bool) (registry : Registry) (network : String) :
    Option (Dictionary Endpoint) :=
  registry[network]?.map fun owner =>
    owner.endpoints.map fun endpoint value => value.masked (drew (network, endpoint))

theorem Alike.maskedEndpoints_eq (alike : Alike drew one other) (network : String) :
    maskedEndpoints drew one network = maskedEndpoints drew other network := by
  unfold maskedEndpoints
  cases stored : one[network]? with
  | none => rw [(alike.none_iff network).mp stored]
  | some owner =>
      obtain ⟨ownerToo, storedToo⟩ := alike.exists_of_some stored
      rw [storedToo]
      exact congrArg some (alike.map_endpoints_eq stored storedToo)

/-- Two sessions that differ in ignored data only are answered alike, each request as the one
at the same place of the other session, and end with the same endpoints. -/
theorem ignored_data_changes_nothing {inputs others : List Input}
    (resemble : List.Forall₂ (fun input another => input.request.Resembles another.request)
      inputs others) :
    (∀ before first after earlier second later, inputs = before ++ first :: after →
      others = earlier ++ second :: later → before.length = earlier.length →
      AlikeAnswers (first.request.endpointNames?.any (Past.drew (history ∅ before)))
        (serve (run ∅ before) first).answer (serve (run ∅ earlier) second).answer) ∧
    ∀ network, maskedEndpoints (Past.drew (history ∅ inputs)) (run ∅ inputs) network =
      maskedEndpoints (Past.drew (history ∅ inputs)) (run ∅ others) network := by
  have from_empty {inputs others : List Input}
      (resemble : List.Forall₂ (fun input another => input.request.Resembles another.request)
        inputs others) :
      Alike (Past.drew (history ∅ inputs)) (run ∅ inputs) (run ∅ others) :=
    run_alike resemble (alike_empty (Past.drew []))
  refine ⟨?_, (from_empty resemble).maskedEndpoints_eq⟩
  rintro before first after earlier second later rfl rfl same
  have begins := List.forall₂_take_append _ _ _ resemble
  have ends := List.forall₂_drop_append _ _ _ resemble
  rw [← same, List.take_left] at begins
  rw [← same, List.drop_left] at ends
  cases ends with
  | cons alike rest => exact (serve_alike (from_empty begins) alike).answers

/-- The host bits of an exhausted pool are told, and nothing else of what is ignored. -/
theorem exhausted_pools_are_alike :
    let inputs : List Input := [⟨default, .createNetwork { network := "blue", ipv4 :=
        [{ pool := "10.0.0.7/30", gateway := "10.0.0.5/30" }] }⟩,
      .makeEndpoint "blue" "one", .makeEndpoint "blue" "two"]
    let others : List Input := [⟨default, .createNetwork { network := "blue", ipv4 :=
        [{ addressSpace := "local", pool := "10.0.0.4/30", gateway := "10.0.0.5/8" }] }⟩,
      ⟨⟨1, 2, 3, 4, 5, 6⟩, .createEndpoint { network := "blue", endpoint := "one" }⟩,
      .makeEndpoint "blue" "two"]
    List.Forall₂ (fun input another : Input => input.request.Resembles another.request)
      inputs others ∧
    AlikeAnswers false
      (.error ⟨some .noService, "no IPv4 addresses available in 10.0.0.7/30"⟩)
      (.error ⟨some .noService, "no IPv4 addresses available in 10.0.0.4/30"⟩) ∧
    maskedEndpoints (Past.drew (history ∅ inputs)) (run ∅ inputs) "blue" =
      maskedEndpoints (Past.drew (history ∅ inputs)) (run ∅ others) "blue" := by
  intro inputs others
  have resemble : List.Forall₂
      (fun input another : Input => input.request.Resembles another.request) inputs others := by
    refine .cons (.createNetwork ⟨rfl, .cons ⟨?pool, ?gateway, rfl⟩ .nil, .nil⟩)
      (.cons (.same _) (.cons (.same _) .nil))
    case pool =>
      exact .inr ⟨⟨.v4, .ofNumbers .v4 0x0a000007 30⟩, ⟨.v4, .ofNumbers .v4 0x0a000004 30⟩, rfl,
        rfl, by decide⟩
    case gateway =>
      exact .inr ⟨⟨.v4, .ofNumbers .v4 0x0a000005 30⟩, ⟨.v4, .ofNumbers .v4 0x0a000005 8⟩, rfl,
        rfl, by decide⟩
  obtain ⟨answers, endpoints⟩ := ignored_data_changes_nothing resemble
  have alike := answers [_, _] (.makeEndpoint "blue" "two") [] [_, _] (.makeEndpoint "blue" "two")
    [] rfl rfl rfl
  exact ⟨resemble, alike, endpoints "blue"⟩

end Registry

end NetworkPlugin
