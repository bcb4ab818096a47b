import NetworkPlugin.Proofs.Dictionary
import NetworkPlugin.Proofs.Except
import NetworkPlugin.Registry.Calls

/-!
# What calls are granted and refused

Two relations say of every call when it is granted, with which turn, and when it is
refused, with which refusal.  They agree with the engine, so that what is proved of a
call goes by their cases.  Both look at the network of the call only, and so does the
change that a granted call makes.
-/

namespace NetworkPlugin

def Call.network : Call → String
  | createNetwork network .. => network
  | deleteNetwork network => network
  | createEndpoint network .. => network
  | deleteEndpoint network _ => network
  | endpointInfo network _ => network
  | join network .. => network
  | leave network _ => network

def Call.makesNetwork : Call → Bool
  | createNetwork .. => true
  | _ => false

def Call.knownEndpoint? : Call → Option String
  | deleteEndpoint _ endpoint | endpointInfo _ endpoint | join _ endpoint .. |
    leave _ endpoint => some endpoint
  | createNetwork .. | deleteNetwork _ | createEndpoint .. => none

namespace Registry

variable {drawn : HardwareAddress} {registry : Registry}

/-! ## Looking up -/

theorem find_of_some {network : String} {owner : Network}
    (stored : registry[network]? = some owner) : registry.find network = .ok owner := by
  simp [find, stored]

theorem find_of_none (network : String) (absent : registry[network]? = none) :
    registry.find network = .error (.networkUnknown network) := by
  simp [find, absent]

theorem findEndpoint_of_some {network endpoint : String} {owner : Network} {value : Endpoint}
    (stored : registry[network]? = some owner)
    (present : owner.endpoints[endpoint]? = some value) :
    registry.findEndpoint network endpoint = .ok (owner, value) := by
  simp only [findEndpoint, find_of_some stored, Except.ok_bind, present]

theorem findEndpoint_of_absent (network : String) {endpoint : String} {owner : Network}
    (stored : registry[network]? = some owner) (absent : owner.endpoints[endpoint]? = none) :
    registry.findEndpoint network endpoint = .error (.endpointUnknown network endpoint) := by
  simp only [findEndpoint, find_of_some stored, Except.ok_bind, absent]

theorem findEndpoint_of_none (network endpoint : String)
    (absent : registry[network]? = none) :
    registry.findEndpoint network endpoint = .error (.networkUnknown network) := by
  simp only [findEndpoint, find_of_none network absent, Except.error_bind]

/-! ## Granted calls -/

/-- What a granted call finds, and the turn that it leads to. -/
inductive Grants (drawn : HardwareAddress) (registry : Registry) :
    (call : Call) → Turn Registry call.Reply → Prop
  | networkCreated {network options ipv4 ipv6} (absent : registry[network]? = none) :
      Grants drawn registry (.createNetwork network options ipv4 ipv6)
        ⟨(), Event.networkCreated network options ipv4 ipv6,
          registry.insert network { ipv4, ipv6 }⟩
  | networkDeleted {network owner} (stored : registry[network]? = some owner)
      (empty : owner.endpoints = ∅) :
      Grants drawn registry (.deleteNetwork network)
        ⟨(), [.networkDeleted network], registry.erase network⟩
  | endpointCreated {network endpoint requested options owner value}
      (stored : registry[network]? = some owner) (absent : owner.endpoints[endpoint]? = none)
      (made : owner.newEndpoint requested drawn = .ok value) :
      Grants drawn registry (.createEndpoint network endpoint requested options)
        ⟨value.assignedPart requested, Event.endpointCreated network endpoint options value,
          registry.putEndpoint network endpoint owner value⟩
  | endpointDeleted {network endpoint owner value} (stored : registry[network]? = some owner)
      (present : owner.endpoints[endpoint]? = some value) (idle : value.sandbox = none) :
      Grants drawn registry (.deleteEndpoint network endpoint)
        ⟨(), [.endpointDeleted network endpoint], registry.dropEndpoint network endpoint owner⟩
  | endpointReported {network endpoint owner value} (stored : registry[network]? = some owner)
      (present : owner.endpoints[endpoint]? = some value) :
      Grants drawn registry (.endpointInfo network endpoint)
        (.idle registry (value.report network endpoint))
  | joined {network endpoint sandbox options owner value}
      (stored : registry[network]? = some owner)
      (present : owner.endpoints[endpoint]? = some value) (idle : value.sandbox = none) :
      Grants drawn registry (.join network endpoint sandbox options)
        ⟨owner.attachment endpoint, [.endpointJoined network endpoint sandbox],
          registry.putEndpoint network endpoint owner { value with sandbox := some sandbox }⟩
  | left {network endpoint owner value sandbox} (stored : registry[network]? = some owner)
      (present : owner.endpoints[endpoint]? = some value)
      (joined : value.sandbox = some sandbox) :
      Grants drawn registry (.leave network endpoint)
        ⟨(), [.endpointLeft network endpoint],
          registry.putEndpoint network endpoint owner { value with sandbox := none }⟩

theorem Grants.step_eq {call : Call} {turn : Turn Registry call.Reply}
    (granted : Grants drawn registry call turn) : step drawn registry call = .ok turn := by
  cases granted with
  | networkCreated absent =>
      simp [step, createNetwork, Dictionary.contains_of_none absent]
  | networkDeleted stored empty =>
      simp [step, deleteNetwork, find_of_some stored, Except.ok_bind, empty]
  | endpointCreated stored absent made =>
      simp only [step, createEndpoint, find_of_some stored, Except.ok_bind,
        Dictionary.contains_of_none absent, Bool.false_eq_true, if_false, made]
  | endpointDeleted stored present idle =>
      simp [step, deleteEndpoint, findEndpoint_of_some stored present, Except.ok_bind, idle]
  | endpointReported stored present =>
      simp [step, endpointInfo, findEndpoint_of_some stored present, Except.ok_bind]
  | joined stored present idle =>
      simp [step, join, findEndpoint_of_some stored present, Except.ok_bind, idle]
  | left stored present joined =>
      simp [step, leave, findEndpoint_of_some stored present, Except.ok_bind, joined]

/-! ## Refused calls -/

/-- Why a call is refused; the first reason that applies, for a call that could be
refused for several. -/
inductive Refuses (drawn : HardwareAddress) (registry : Registry) : Call → Refusal → Prop
  | networkExists {network options ipv4 ipv6 owner} (stored : registry[network]? = some owner) :
      Refuses drawn registry (.createNetwork network options ipv4 ipv6) (.networkExists network)
  | networkUnknown {call} (needed : call.makesNetwork = false)
      (absent : registry[call.network]? = none) :
      Refuses drawn registry call (.networkUnknown call.network)
  | networkInUse {network owner} (stored : registry[network]? = some owner)
      (inUse : owner.endpoints ≠ ∅) :
      Refuses drawn registry (.deleteNetwork network)
        (.networkInUse network owner.endpoints.size)
  | endpointExists {network endpoint requested options owner value}
      (stored : registry[network]? = some owner)
      (present : owner.endpoints[endpoint]? = some value) :
      Refuses drawn registry (.createEndpoint network endpoint requested options)
        (.endpointExists network endpoint)
  | notAssigned {network endpoint requested options owner refusal}
      (stored : registry[network]? = some owner) (absent : owner.endpoints[endpoint]? = none)
      (failed : owner.newEndpoint requested drawn = .error refusal) :
      Refuses drawn registry (.createEndpoint network endpoint requested options) refusal
  | endpointUnknown {call endpoint owner} (needed : call.knownEndpoint? = some endpoint)
      (stored : registry[call.network]? = some owner)
      (absent : owner.endpoints[endpoint]? = none) :
      Refuses drawn registry call (.endpointUnknown call.network endpoint)
  | stillJoined {network endpoint owner value sandbox}
      (stored : registry[network]? = some owner)
      (present : owner.endpoints[endpoint]? = some value)
      (joined : value.sandbox = some sandbox) :
      Refuses drawn registry (.deleteEndpoint network endpoint) (.stillJoined endpoint sandbox)
  | alreadyJoined {network endpoint sandbox options owner value current}
      (stored : registry[network]? = some owner)
      (present : owner.endpoints[endpoint]? = some value)
      (joined : value.sandbox = some current) :
      Refuses drawn registry (.join network endpoint sandbox options)
        (.alreadyJoined endpoint current)
  | notJoined {network endpoint owner value} (stored : registry[network]? = some owner)
      (present : owner.endpoints[endpoint]? = some value) (idle : value.sandbox = none) :
      Refuses drawn registry (.leave network endpoint) (.notJoined endpoint)

theorem Refuses.step_eq {call : Call} {refusal : Refusal}
    (refused : Refuses drawn registry call refusal) :
    step drawn registry call = .error refusal := by
  cases refused with
  | networkExists stored =>
      simp [step, createNetwork, Dictionary.contains_of_some stored]
  | networkUnknown needed absent =>
      cases call with
      | createNetwork => cases needed
      | deleteNetwork network =>
          simp only [step, deleteNetwork, find_of_none network absent]
          rfl
      | createEndpoint network endpoint =>
          simp only [step, createEndpoint, find_of_none network absent]
          rfl
      | deleteEndpoint network endpoint =>
          simp only [step, deleteEndpoint, findEndpoint_of_none network endpoint absent]
          rfl
      | endpointInfo network endpoint =>
          simp only [step, endpointInfo, findEndpoint_of_none network endpoint absent]
          rfl
      | join network endpoint =>
          simp only [step, join, findEndpoint_of_none network endpoint absent]
          rfl
      | leave network endpoint =>
          simp only [step, leave, findEndpoint_of_none network endpoint absent]
          rfl
  | networkInUse stored inUse =>
      simp [step, deleteNetwork, find_of_some stored, Except.ok_bind, inUse]
  | endpointExists stored present =>
      simp only [step, createEndpoint, find_of_some stored, Except.ok_bind,
        Dictionary.contains_of_some present, if_true]
  | notAssigned stored absent failed =>
      simp only [step, createEndpoint, find_of_some stored, Except.ok_bind,
        Dictionary.contains_of_none absent, Bool.false_eq_true, if_false, failed,
        Except.error_bind]
  | endpointUnknown needed stored absent =>
      cases call with
      | createNetwork | deleteNetwork | createEndpoint => cases needed
      | deleteEndpoint network =>
          cases needed
          simp only [step, deleteEndpoint, findEndpoint_of_absent network stored absent]
          rfl
      | endpointInfo network =>
          cases needed
          simp only [step, endpointInfo, findEndpoint_of_absent network stored absent]
          rfl
      | join network =>
          cases needed
          simp only [step, join, findEndpoint_of_absent network stored absent]
          rfl
      | leave network =>
          cases needed
          simp only [step, leave, findEndpoint_of_absent network stored absent]
          rfl
  | stillJoined stored present joined =>
      simp [step, deleteEndpoint, findEndpoint_of_some stored present, Except.ok_bind, joined]
  | alreadyJoined stored present joined =>
      simp [step, join, findEndpoint_of_some stored present, Except.ok_bind, joined]
  | notJoined stored present idle =>
      simp [step, leave, findEndpoint_of_some stored present, Except.ok_bind, idle]

/-! ## Every call is one or the other -/

theorem refuses_or_present (drawn : HardwareAddress) (registry : Registry) (call : Call)
    {endpoint : String} (needs : call.knownEndpoint? = some endpoint) :
    (∃ refusal, Refuses drawn registry call refusal) ∨
      ∃ owner value, registry[call.network]? = some owner ∧
        owner.endpoints[endpoint]? = some value := by
  cases stored : registry[call.network]? with
  | none =>
      refine .inl ⟨_, .networkUnknown ?_ stored⟩
      cases call <;> first | rfl | cases needs
  | some owner =>
      cases present : owner.endpoints[endpoint]? with
      | none => exact .inl ⟨_, .endpointUnknown needs stored present⟩
      | some value => exact .inr ⟨owner, value, rfl, present⟩

theorem grants_or_refuses (drawn : HardwareAddress) (registry : Registry) (call : Call) :
    (∃ turn, Grants drawn registry call turn) ∨ ∃ refusal, Refuses drawn registry call refusal := by
  cases call with
  | createNetwork network options ipv4 ipv6 =>
      cases stored : registry[network]? with
      | none => exact .inl ⟨_, .networkCreated stored⟩
      | some owner => exact .inr ⟨_, .networkExists stored⟩
  | deleteNetwork network =>
      cases stored : registry[network]? with
      | none => exact .inr ⟨_, .networkUnknown rfl stored⟩
      | some owner =>
          by_cases empty : owner.endpoints = ∅
          · exact .inl ⟨_, .networkDeleted stored empty⟩
          · exact .inr ⟨_, .networkInUse stored empty⟩
  | createEndpoint network endpoint requested options =>
      cases stored : registry[network]? with
      | none => exact .inr ⟨_, .networkUnknown rfl stored⟩
      | some owner =>
          cases present : owner.endpoints[endpoint]? with
          | some value => exact .inr ⟨_, .endpointExists stored present⟩
          | none =>
              cases made : owner.newEndpoint requested drawn with
              | ok value => exact .inl ⟨_, .endpointCreated stored present made⟩
              | error refusal => exact .inr ⟨_, .notAssigned stored present made⟩
  | deleteEndpoint network endpoint =>
      obtain refused | ⟨owner, value, stored, present⟩ :=
        refuses_or_present drawn registry (.deleteEndpoint network endpoint) rfl
      · exact .inr refused
      · cases state : value.sandbox with
        | none => exact .inl ⟨_, .endpointDeleted stored present state⟩
        | some sandbox => exact .inr ⟨_, .stillJoined stored present state⟩
  | endpointInfo network endpoint =>
      obtain refused | ⟨owner, value, stored, present⟩ :=
        refuses_or_present drawn registry (.endpointInfo network endpoint) rfl
      · exact .inr refused
      · exact .inl ⟨_, .endpointReported stored present⟩
  | join network endpoint sandbox options =>
      obtain refused | ⟨owner, value, stored, present⟩ :=
        refuses_or_present drawn registry (.join network endpoint sandbox options) rfl
      · exact .inr refused
      · cases state : value.sandbox with
        | none => exact .inl ⟨_, .joined stored present state⟩
        | some current => exact .inr ⟨_, .alreadyJoined stored present state⟩
  | leave network endpoint =>
      obtain refused | ⟨owner, value, stored, present⟩ :=
        refuses_or_present drawn registry (.leave network endpoint) rfl
      · exact .inr refused
      · cases state : value.sandbox with
        | none => exact .inr ⟨_, .notJoined stored present state⟩
        | some sandbox => exact .inl ⟨_, .left stored present state⟩

theorem step_eq_ok {call : Call} {turn : Turn Registry call.Reply} :
    step drawn registry call = .ok turn ↔ Grants drawn registry call turn := by
  refine ⟨fun done => ?_, Grants.step_eq⟩
  obtain ⟨other, granted⟩ | ⟨refusal, refused⟩ := grants_or_refuses drawn registry call
  · rw [granted.step_eq] at done
    cases done
    exact granted
  · rw [refused.step_eq] at done
    cases done

theorem step_eq_error {call : Call} {refusal : Refusal} :
    step drawn registry call = .error refusal ↔ Refuses drawn registry call refusal := by
  refine ⟨fun failed => ?_, Refuses.step_eq⟩
  obtain ⟨turn, granted⟩ | ⟨other, refused⟩ := grants_or_refuses drawn registry call
  · rw [granted.step_eq] at failed
    cases failed
  · rw [refused.step_eq] at failed
    cases failed
    exact refused

/-! ## Endpoints by both names -/

def endpoint? (registry : Registry) (network endpoint : String) : Option Endpoint :=
  registry[network]?.bind fun owner => owner.endpoints[endpoint]?

theorem endpoint?_of_some {network : String} {owner : Network}
    (stored : registry[network]? = some owner) (endpoint : String) :
    endpoint? registry network endpoint = owner.endpoints[endpoint]? := by
  simp [endpoint?, stored]

theorem endpoint?_of_none {network : String} (absent : registry[network]? = none)
    (endpoint : String) : endpoint? registry network endpoint = none := by
  simp [endpoint?, absent]

theorem endpoint?_putEndpoint {network : String} {owner : Network}
    (stored : registry[network]? = some owner) (endpoint : String) (value : Endpoint)
    (names : String × String) :
    endpoint? (registry.putEndpoint network endpoint owner value) names.1 names.2 =
      if (network, endpoint) = names then some value
      else endpoint? registry names.1 names.2 := by
  obtain ⟨other, name⟩ := names
  by_cases same : network = other
  · subst same
    simp [endpoint?, putEndpoint, stored, Dictionary.getElem?_insert]
  · simp [endpoint?, putEndpoint, Dictionary.getElem?_insert, same]

theorem endpoint?_dropEndpoint {network : String} {owner : Network}
    (stored : registry[network]? = some owner) (endpoint : String) (names : String × String) :
    endpoint? (registry.dropEndpoint network endpoint owner) names.1 names.2 =
      if (network, endpoint) = names then none else endpoint? registry names.1 names.2 := by
  obtain ⟨other, name⟩ := names
  by_cases same : network = other
  · subst same
    simp [endpoint?, dropEndpoint, stored, Dictionary.getElem?_erase]
  · simp [endpoint?, dropEndpoint, Dictionary.getElem?_insert, same]

theorem endpoint?_insert_empty {network : String} {made : Network}
    (absent : registry[network]? = none) (empty : made.endpoints = ∅) (other endpoint : String) :
    endpoint? (registry.insert network made) other endpoint =
      endpoint? registry other endpoint := by
  by_cases same : network = other
  · subst same
    simp [endpoint?, absent, empty]
  · simp [endpoint?, Dictionary.getElem?_insert, same]

theorem endpoint?_erase_empty {network : String} {owner : Network}
    (stored : registry[network]? = some owner) (empty : owner.endpoints = ∅)
    (other endpoint : String) :
    endpoint? (registry.erase network) other endpoint = endpoint? registry other endpoint := by
  by_cases same : network = other
  · subst same
    simp [endpoint?, stored, empty]
  · simp [endpoint?, Dictionary.getElem?_erase, same]

/-! ## Only the network of a call matters -/

theorem Grants.frame {call : Call} {turn : Turn Registry call.Reply}
    (granted : Grants drawn registry call turn) {name : String} (other : call.network ≠ name) :
    turn.state[name]? = registry[name]? := by
  cases granted with
  | networkCreated absent => exact (Dictionary.getElem?_insert _ _ _ _).trans (if_neg other)
  | networkDeleted stored empty => exact (Dictionary.getElem?_erase _ _ _).trans (if_neg other)
  | endpointReported stored present => rfl
  | endpointCreated stored absent made =>
      exact (Dictionary.getElem?_insert _ _ _ _).trans (if_neg other)
  | endpointDeleted stored present idle =>
      exact (Dictionary.getElem?_insert _ _ _ _).trans (if_neg other)
  | joined stored present idle =>
      exact (Dictionary.getElem?_insert _ _ _ _).trans (if_neg other)
  | left stored present joined =>
      exact (Dictionary.getElem?_insert _ _ _ _).trans (if_neg other)

/-- In registries that agree on the network of a call, it is granted alike. -/
theorem Grants.congr {call : Call} {turn : Turn Registry call.Reply} {other : Registry}
    (granted : Grants drawn registry call turn)
    (agree : registry[call.network]? = other[call.network]?) :
    ∃ state, Grants drawn other call ⟨turn.answer, turn.events, state⟩ ∧
      turn.state[call.network]? = state[call.network]? := by
  cases granted with
  | networkCreated absent =>
      refine ⟨_, .networkCreated (agree.symm.trans absent), ?_⟩
      simp [Call.network]
  | networkDeleted stored empty =>
      refine ⟨_, .networkDeleted (agree.symm.trans stored) empty, ?_⟩
      simp [Call.network]
  | endpointCreated stored absent made =>
      refine ⟨_, .endpointCreated (agree.symm.trans stored) absent made, ?_⟩
      simp [Call.network, putEndpoint]
  | endpointDeleted stored present idle =>
      refine ⟨_, .endpointDeleted (agree.symm.trans stored) present idle, ?_⟩
      simp [Call.network, dropEndpoint]
  | endpointReported stored present =>
      exact ⟨_, .endpointReported (agree.symm.trans stored) present, agree⟩
  | joined stored present idle =>
      refine ⟨_, .joined (agree.symm.trans stored) present idle, ?_⟩
      simp [Call.network, putEndpoint]
  | left stored present joined =>
      refine ⟨_, .left (agree.symm.trans stored) present joined, ?_⟩
      simp [Call.network, putEndpoint]

theorem Refuses.congr {call : Call} {refusal : Refusal} {other : Registry}
    (refused : Refuses drawn registry call refusal)
    (agree : registry[call.network]? = other[call.network]?) :
    Refuses drawn other call refusal := by
  cases refused with
  | networkExists stored => exact .networkExists (agree.symm.trans stored)
  | networkUnknown needed absent => exact .networkUnknown needed (agree.symm.trans absent)
  | networkInUse stored inUse => exact .networkInUse (agree.symm.trans stored) inUse
  | endpointExists stored present => exact .endpointExists (agree.symm.trans stored) present
  | notAssigned stored absent failed =>
      exact .notAssigned (agree.symm.trans stored) absent failed
  | endpointUnknown needed stored absent =>
      exact .endpointUnknown needed (agree.symm.trans stored) absent
  | stillJoined stored present joined =>
      exact .stillJoined (agree.symm.trans stored) present joined
  | alreadyJoined stored present joined =>
      exact .alreadyJoined (agree.symm.trans stored) present joined
  | notJoined stored present idle => exact .notJoined (agree.symm.trans stored) present idle

end Registry

end NetworkPlugin
