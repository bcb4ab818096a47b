import NetworkPlugin.Proofs.Interface
import NetworkPlugin.Proofs.Registry.AddressSafety
import NetworkPlugin.Proofs.Registry.Creation

/-!
# What is assigned can be requested

An endpoint that got addresses from the engine can be deleted and made again with these
addresses requested: nothing is left to assign, and the registry is the same as before.
Either way of choosing an address leads to a free host of the first pool that contains it,
which is all that a request is checked for; and what is sent is read back from its text.
-/

namespace NetworkPlugin

/-! ## Assigning what was assigned -/

namespace Assignment

variable {family : Family} {pools : List (Subnet family)} {used : List (Address family)}

theorem Assigns.assign_self {requested result : Option (Subnet family)}
    (assigned : Assigns pools used requested result) :
    assign pools used result = .ok result := by
  cases result with
  | none =>
      cases assigned with
      | withoutPools empty =>
          rw [empty]
          rfl
  | some given =>
      obtain ⟨pool, first, host⟩ := assigned.placed
      have free := assigned.free
      simp [assign, checkRequested, first, host, free, Except.map]

end Assignment

def Endpoint.interface (endpoint : Endpoint) : Interface where
  hardware := some endpoint.hardware
  ipv4 := endpoint.ipv4
  ipv6 := endpoint.ipv6

namespace Network

variable {network : Network} {requested : Interface} {drawn : HardwareAddress} {value : Endpoint}

theorem newEndpoint_interface (made : network.newEndpoint requested drawn = .ok value)
    (other : HardwareAddress) : network.newEndpoint value.interface other = .ok value := by
  have ipv4 := (assigns_of_newEndpoint made .v4).assign_self
  have ipv6 := (assigns_of_newEndpoint made .v6).assign_self
  obtain ⟨first, second, -, -, rfl⟩ := newEndpoint_eq_ok.mp made
  exact newEndpoint_eq_ok.mpr ⟨first, second, ipv4, ipv6, rfl⟩

theorem fill_assignedPart (made : network.newEndpoint requested drawn = .ok value) :
    requested.fill (value.assignedPart requested) = value.interface := by
  have ipv4 := assigns_of_newEndpoint made .v4
  have ipv6 := assigns_of_newEndpoint made .v6
  obtain ⟨first, second, -, -, rfl⟩ := newEndpoint_eq_ok.mp made
  obtain ⟨hardware, wantedV4, wantedV6⟩ := requested
  have asked {family : Family} {pools : List (Subnet family)} {used : List (Address family)}
      {requested result : Option (Subnet family)}
      (assigned : Assignment.Assigns pools used requested result) :
      (requested <|> if requested.isNone then result else none) = result := by
    cases assigned <;> rfl
  unfold Interface.fill Endpoint.assignedPart Endpoint.interface
  congr 1
  · cases hardware <;> rfl
  · exact asked ipv4
  · exact asked ipv6

end Network

theorem Endpoint.assignedPart_interface (endpoint : Endpoint) :
    endpoint.assignedPart endpoint.interface = {} := by
  obtain ⟨hardware, ipv4, ipv6, sandbox⟩ := endpoint
  cases ipv4 <;> cases ipv6 <;> rfl

/-! ## Deleting and making again -/

namespace Registry

variable {registry : Registry}

theorem dropEndpoint_putEndpoint {network endpoint : String} {owner : Network}
    (stored : registry[network]? = some owner) (absent : owner.endpoints[endpoint]? = none)
    (value : Endpoint) :
    (registry.putEndpoint network endpoint owner value).dropEndpoint network endpoint
      { owner with endpoints := owner.endpoints.insert endpoint value } = registry := by
  unfold dropEndpoint putEndpoint
  rw [Dictionary.insert_insert, Dictionary.erase_insert absent]
  exact Dictionary.insert_of_getElem? stored

namespace Created

variable {drawn : HardwareAddress} {arguments : EndpointArguments} {requested : Interface}
  {owner : Network} {value : Endpoint}

theorem serve_delete (created : Created registry drawn arguments requested owner value)
    (other : HardwareAddress) :
    let deleted := serve (serve registry ⟨drawn, .createEndpoint arguments⟩).state
      ⟨other, .deleteEndpoint ⟨arguments.network, arguments.endpoint⟩⟩
    deleted.answer = .ok .done ∧ deleted.state = registry := by
  have stored := getElem?_putEndpoint_self registry arguments.network arguments.endpoint owner
    value
  have present : (owner.endpoints.insert arguments.endpoint value)[arguments.endpoint]? =
      some value := Std.ExtTreeMap.getElem?_insert_self
  have idle : value.sandbox = none := by
    obtain ⟨ipv4, ipv6, -, -, rfl⟩ := Network.newEndpoint_eq_ok.mp created.made
    rfl
  have deleted := @serve_of_grants _
    ⟨other, .deleteEndpoint ⟨arguments.network, arguments.endpoint⟩⟩ _ _ _
    Asks.deleteEndpoint.plan_eq (.endpointDeleted stored present idle)
  rw [created.serve_eq]
  dsimp only
  rw [deleted]
  exact ⟨rfl, dropEndpoint_putEndpoint created.stored created.absent value⟩

theorem refill (created : Created registry drawn arguments requested owner value)
    (again : HardwareAddress) (options : Options) :
    Created registry again
      { arguments with
        interface := some ((arguments.interface.getD {}).fill
          (value.assignedPart requested).toText)
        options }
      value.interface owner value := by
  have read : Interface.ofText (arguments.interface.getD {}) = .ok requested := by
    have readable := created.read
    unfold readInterface at readable
    rw [Interface.ofText?_eq] at readable
    cases parsed : Interface.ofText (arguments.interface.getD {}) with
    | ok interface =>
        rw [parsed] at readable
        cases readable
        rfl
    | error fault =>
        rw [parsed] at readable
        cases readable
  refine ⟨?_, created.stored, created.absent, Network.newEndpoint_interface created.made again⟩
  have filled := Interface.ofText_fill read (value.assignedPart requested)
  rw [Network.fill_assignedPart created.made] at filled
  rw [readInterface, Interface.ofText?, filled, Except.mapError_ok]

end Created

/-- An endpoint can be deleted and made again with all that it got by itself requested;
nothing is assigned to it then, and the registry is as it was. -/
theorem assigned_is_accepted {registry : Registry} {drawn : HardwareAddress}
    {arguments : EndpointArguments}
    (succeeded : (serve registry ⟨drawn, .createEndpoint arguments⟩).answer.isOk = true)
    (other again : HardwareAddress) (options : Options) :
    ∃ answered : InterfaceText,
      let first := serve registry ⟨drawn, .createEndpoint arguments⟩
      let deleted := serve first.state
        ⟨other, .deleteEndpoint ⟨arguments.network, arguments.endpoint⟩⟩
      let second := serve deleted.state ⟨again, .createEndpoint
        { arguments with
          interface := some ((arguments.interface.getD {}).fill answered)
          options }⟩
      first.answer = .ok (.endpoint ⟨some answered⟩) ∧ deleted.answer = .ok .done ∧
        second.answer = .ok (.endpoint ⟨some {}⟩) ∧ second.state = first.state := by
  obtain ⟨requested, owner, value, created⟩ := created_of_isOk succeeded
  obtain ⟨deleted, restored⟩ := created.serve_delete other
  have refilled := created.refill again options
  refine ⟨(value.assignedPart requested).toText, by rw [created.serve_eq], deleted, ?_, ?_⟩
  · rw [restored, refilled.serve_eq, value.assignedPart_interface]
    rfl
  · rw [restored, refilled.serve_eq, created.serve_eq]

theorem both_families_are_accepted :
    let registry := run ∅ [⟨default, .createNetwork
      { network := "blue", ipv4 := [{ pool := "10.0.0.7/30", gateway := "10.0.0.5/30" }],
        ipv6 := [{ pool := "fd00::/127" }] }⟩]
    let made := serve registry ⟨default, .createEndpoint
      { network := "blue", endpoint := "one",
        interface := some { hardware := "02-42-AC-11-00-02" } }⟩
    let deleted := serve made.state ⟨default, .deleteEndpoint ⟨"blue", "one"⟩⟩
    let again := serve deleted.state ⟨default, .createEndpoint
      { network := "blue", endpoint := "one",
        interface := some
          { ipv4 := "10.0.0.6/30", ipv6 := "fd00::1/127", hardware := "02-42-AC-11-00-02" } }⟩
    made.answer = .ok (.endpoint ⟨some { ipv4 := "10.0.0.6/30", ipv6 := "fd00::1/127" }⟩) ∧
      deleted.answer = .ok .done ∧ again.answer = .ok (.endpoint ⟨some {}⟩) ∧
        again.state = made.state := by
  intro registry made deleted again
  have answer : made.answer =
      .ok (.endpoint ⟨some { ipv4 := "10.0.0.6/30", ipv6 := "fd00::1/127" }⟩) := rfl
  have succeeded : made.answer.isOk = true := rfl
  obtain ⟨answered, first, gone, second, same⟩ :=
    assigned_is_accepted succeeded default default ∅
  cases first.symm.trans answer
  exact ⟨answer, gone, second, same⟩

end Registry

end NetworkPlugin
