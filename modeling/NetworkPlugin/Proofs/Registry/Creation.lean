import NetworkPlugin.Proofs.Registry.Assignment
import NetworkPlugin.Proofs.Session

/-!
# New networks and endpoints

When a request for a network or an endpoint succeeds and what it leaves, and what is known
of one for which no address could be assigned.
-/

namespace NetworkPlugin

namespace Registry

/-! ## Networks -/

structure NetworkCreated (registry : Registry) (arguments : NetworkArguments Json)
    (ipv4 ipv6 : List Pool) : Prop where
  read : readPools .v4 arguments.ipv4 = .ok ipv4
  readV6 : readPools .v6 arguments.ipv6 = .ok ipv6
  absent : registry[arguments.network]? = none

section

variable {registry : Registry} {drawn : HardwareAddress} {arguments : NetworkArguments Json}
  {ipv4 ipv6 : List Pool}

theorem networkCreated_of_isOk
    (succeeded : (serve registry ⟨drawn, .createNetwork arguments⟩).answer.isOk = true) :
    ∃ ipv4 ipv6, NetworkCreated registry arguments ipv4 ipv6 := by
  cases served registry ⟨drawn, .createNetwork arguments⟩ with
  | known result planned =>
      rw [serve_of_answer planned] at succeeded
      simp only [Request.plan] at planned
      split at planned <;> cases planned <;> cases succeeded
  | granted call respond turn planned granted =>
      cases asks_of_plan planned with
      | createNetwork read readV6 =>
          cases granted with
          | networkCreated absent => exact ⟨_, _, read, readV6, absent⟩
  | refused call respond refusal planned refused =>
      rw [serve_of_refuses planned refused] at succeeded
      cases succeeded

theorem NetworkCreated.state_eq (created : NetworkCreated registry arguments ipv4 ipv6)
    (drawn : HardwareAddress) :
    (serve registry ⟨drawn, .createNetwork arguments⟩).state =
      registry.insert arguments.network { ipv4, ipv6 } := by
  rw [@serve_of_grants registry ⟨drawn, .createNetwork arguments⟩ _ _ _
    (Asks.createNetwork created.read created.readV6).plan_eq (.networkCreated created.absent)]

theorem NetworkCreated.stored (created : NetworkCreated registry arguments ipv4 ipv6)
    (drawn : HardwareAddress) :
    (serve registry ⟨drawn, .createNetwork arguments⟩).state[arguments.network]? =
      some { ipv4, ipv6 } := by
  rw [created.state_eq, Std.ExtTreeMap.getElem?_insert_self]

end

variable {registry : Registry} {drawn : HardwareAddress} {arguments : EndpointArguments}

/-! ## Endpoints -/

theorem getElem?_putEndpoint_self (registry : Registry) (network endpoint : String)
    (owner : Network) (value : Endpoint) :
    (registry.putEndpoint network endpoint owner value)[network]? =
      some { owner with endpoints := owner.endpoints.insert endpoint value } :=
  Std.ExtTreeMap.getElem?_insert_self

/-- What a request for an endpoint that succeeds finds and leaves. -/
structure Created (registry : Registry) (drawn : HardwareAddress)
    (arguments : EndpointArguments) (requested : Interface) (owner : Network)
    (value : Endpoint) : Prop where
  read : readInterface arguments = .ok requested
  stored : registry[arguments.network]? = some owner
  absent : owner.endpoints[arguments.endpoint]? = none
  made : owner.newEndpoint requested drawn = .ok value

theorem created_of_isOk
    (succeeded : (serve registry ⟨drawn, .createEndpoint arguments⟩).answer.isOk = true) :
    ∃ requested owner value, Created registry drawn arguments requested owner value := by
  cases served registry ⟨drawn, .createEndpoint arguments⟩ with
  | known result planned =>
      rw [serve_of_answer planned] at succeeded
      simp only [Request.plan] at planned
      split at planned <;> cases planned
      cases succeeded
  | granted call respond turn planned granted =>
      cases asks_of_plan planned with
      | createEndpoint read =>
          cases granted with
          | endpointCreated stored absent made => exact ⟨_, _, _, read, stored, absent, made⟩
  | refused call respond refusal planned refused =>
      rw [serve_of_refuses planned refused] at succeeded
      cases succeeded

theorem Created.serve_eq {requested : Interface} {owner : Network} {value : Endpoint}
    (created : Created registry drawn arguments requested owner value) :
    serve registry ⟨drawn, .createEndpoint arguments⟩ =
      ⟨.ok (.endpoint ⟨some (value.assignedPart requested).toText⟩),
        Event.endpointCreated arguments.network arguments.endpoint arguments.options value ++
          [(Request.createEndpoint arguments).event
            (.ok (.endpoint ⟨some (value.assignedPart requested).toText⟩))],
        registry.putEndpoint arguments.network arguments.endpoint owner value⟩ :=
  @serve_of_grants registry ⟨drawn, .createEndpoint arguments⟩ _ _ _
    (Asks.createEndpoint created.read).plan_eq
    (.endpointCreated created.stored created.absent created.made)

/-! ## Failures for want of an address -/

structure Unassigned (registry : Registry) (drawn : HardwareAddress)
    (arguments : EndpointArguments) (requested : Interface) (owner : Network)
    (refusal : Refusal) : Prop where
  read : readInterface arguments = .ok requested
  stored : registry[arguments.network]? = some owner
  absent : owner.endpoints[arguments.endpoint]? = none
  failed : owner.newEndpoint requested drawn = .error refusal

theorem Unassigned.serve_eq {requested : Interface} {owner : Network} {refusal : Refusal}
    (unassigned : Unassigned registry drawn arguments requested owner refusal) :
    serve registry ⟨drawn, .createEndpoint arguments⟩ =
      ⟨.error refusal.failure, [(Request.createEndpoint arguments).event (.error refusal.failure)],
        registry⟩ :=
  @serve_of_refuses registry ⟨drawn, .createEndpoint arguments⟩ _ _ _
    (Asks.createEndpoint unassigned.read).plan_eq
    (.notAssigned unassigned.stored unassigned.absent unassigned.failed)

theorem kind_of_readInterface {failure : Failure}
    (unreadable : readInterface arguments = .error failure) : failure.kind = some .badRequest := by
  obtain ⟨fault, -, rfl⟩ := Except.mapError_eq_error.mp unreadable
  rfl

theorem unassigned_of_noService {failure : Failure}
    (answered : (serve registry ⟨drawn, .createEndpoint arguments⟩).answer = .error failure)
    (kind : failure.kind = some .noService) :
    ∃ requested owner refusal, Unassigned registry drawn arguments requested owner refusal ∧
      refusal.failure = failure := by
  cases served registry ⟨drawn, .createEndpoint arguments⟩ with
  | known result planned =>
      rw [serve_of_answer planned] at answered
      cases answered
      cases failsAtOnce_of_plan planned with
      | interface unread =>
          rw [kind_of_readInterface unread] at kind
          cases kind
  | granted call respond turn planned granted =>
      rw [serve_of_grants planned granted] at answered
      cases answered
  | refused call respond refusal planned refused =>
      rw [serve_of_refuses planned refused] at answered
      cases answered
      cases asks_of_plan planned with
      | createEndpoint read =>
          cases refused with
          | notAssigned stored absent failed => exact ⟨_, _, _, ⟨read, stored, absent, failed⟩, rfl⟩
          | endpointUnknown needed => cases needed
          | networkUnknown | endpointExists => cases kind

end Registry

end NetworkPlugin
