import NetworkPlugin.Proofs.Registry.Reporting

/-!
# Taking requests back

A network or an endpoint that has just been made can be deleted, a sandbox that has just been
joined can be left, and one that has just been left can be joined again under the key that was
reported of it.  Each time the registry is as it was before, so that requests can be taken back
one by one from the last to the first, and one that is made again goes as it went before.
-/

namespace NetworkPlugin

def Request.inverse? : Request → Option Request
  | createNetwork arguments => some (.deleteNetwork ⟨arguments.network⟩)
  | createEndpoint arguments => some (.deleteEndpoint ⟨arguments.network, arguments.endpoint⟩)
  | join arguments => some (.leave ⟨arguments.network, arguments.endpoint⟩)
  | _ => none

namespace Registry

variable {registry : Registry} {drawn : HardwareAddress}

/-- A request that succeeds after a registry has changed and restores what it was before. -/
structure Restores (after before : Registry) (request : Request) : Prop where
  succeeds : ∀ drawn, (serve after ⟨drawn, request⟩).answer.isOk = true
  state : ∀ drawn, (serve after ⟨drawn, request⟩).state = before

theorem restores_of_grants {after before : Registry} {request : Request} {call : Call}
    {respond : call.Reply → Response} (asks : Asks request call respond)
    (granted : ∀ drawn, ∃ turn, Grants drawn after call turn ∧ turn.state = before) :
    Restores after before request := by
  constructor
  · intro drawn
    obtain ⟨turn, grants, -⟩ := granted drawn
    rw [@serve_of_grants after ⟨drawn, request⟩ _ _ _ asks.plan_eq grants]
    rfl
  · intro drawn
    obtain ⟨turn, grants, restored⟩ := granted drawn
    rw [@serve_of_grants after ⟨drawn, request⟩ _ _ _ asks.plan_eq grants]
    exact restored

theorem grants_of_isOk {request : Request} {call : Call} {respond : call.Reply → Response}
    (asks : Asks request call respond)
    (succeeded : (serve registry ⟨drawn, request⟩).answer.isOk = true) :
    ∃ turn, Grants drawn registry call turn ∧
      (serve registry ⟨drawn, request⟩).state = turn.state := by
  obtain ⟨turn, granted⟩ | ⟨refusal, refused⟩ := grants_or_refuses drawn registry call
  · refine ⟨turn, granted, ?_⟩
    rw [@serve_of_grants registry ⟨drawn, request⟩ _ _ _ asks.plan_eq granted]
  · rw [@serve_of_refuses registry ⟨drawn, request⟩ _ _ _ asks.plan_eq refused] at succeeded
    cases succeeded

theorem putEndpoint_putEndpoint {network endpoint : String} {owner : Network}
    {value : Endpoint} (stored : registry[network]? = some owner)
    (present : owner.endpoints[endpoint]? = some value) (meanwhile : Endpoint) :
    (registry.putEndpoint network endpoint owner meanwhile).putEndpoint network endpoint
      { owner with endpoints := owner.endpoints.insert endpoint meanwhile } value = registry := by
  unfold putEndpoint
  rw [Dictionary.insert_insert, Dictionary.insert_insert, Dictionary.insert_of_getElem? present]
  exact Dictionary.insert_of_getElem? stored

/-! ## One request -/

theorem restores_createNetwork {arguments : NetworkArguments Json}
    (succeeded : (serve registry ⟨drawn, .createNetwork arguments⟩).answer.isOk = true) :
    Restores (serve registry ⟨drawn, .createNetwork arguments⟩).state registry
      (.deleteNetwork ⟨arguments.network⟩) := by
  obtain ⟨ipv4, ipv6, created⟩ := networkCreated_of_isOk succeeded
  have stored := created.stored drawn
  rw [created.state_eq] at stored ⊢
  refine restores_of_grants .deleteNetwork fun _ => ⟨_, .networkDeleted stored rfl, ?_⟩
  exact Dictionary.erase_insert created.absent _

theorem restores_createEndpoint {arguments : EndpointArguments}
    (succeeded : (serve registry ⟨drawn, .createEndpoint arguments⟩).answer.isOk = true) :
    Restores (serve registry ⟨drawn, .createEndpoint arguments⟩).state registry
      (.deleteEndpoint ⟨arguments.network, arguments.endpoint⟩) := by
  obtain ⟨requested, owner, value, created⟩ := created_of_isOk succeeded
  constructor
  · intro other
    rw [(created.serve_delete other).1]
    rfl
  · exact fun other => (created.serve_delete other).2

theorem restores_join {arguments : JoinArguments}
    (succeeded : (serve registry ⟨drawn, .join arguments⟩).answer.isOk = true) :
    Restores (serve registry ⟨drawn, .join arguments⟩).state registry
      (.leave ⟨arguments.network, arguments.endpoint⟩) := by
  obtain ⟨_, granted, after⟩ := grants_of_isOk .join succeeded
  rw [after]
  cases granted with
  | @joined _ _ _ _ owner value stored present idle =>
      refine restores_of_grants .leave fun _ => ⟨_, .left (getElem?_putEndpoint_self ..)
        Std.ExtTreeMap.getElem?_insert_self rfl, ?_⟩
      have unjoined : { value with sandbox := none } = value := by rw [← idle]
      rw [unjoined]
      exact putEndpoint_putEndpoint stored present _

theorem restores_leave {arguments : EndpointRef}
    (succeeded : (serve registry ⟨drawn, .leave arguments⟩).answer.isOk = true) :
    ∃ (report : Dictionary String) (sandbox : String),
      (∀ asking, (serve registry ⟨asking, .endpointInfo arguments⟩).answer =
        .ok (.report ⟨report⟩)) ∧
      report["sandbox_key"]? = some sandbox ∧
      ∀ options, Restores (serve registry ⟨drawn, .leave arguments⟩).state registry
        (.join ⟨arguments.network, arguments.endpoint, sandbox, options⟩) := by
  obtain ⟨_, granted, after⟩ := grants_of_isOk .leave succeeded
  rw [after]
  cases granted with
  | @left _ _ owner value sandbox stored present joined =>
      have known : endpoint? registry arguments.network arguments.endpoint = some value := by
        rw [endpoint?_of_some stored, present]
      have reports := value.reports_report (arguments.network, arguments.endpoint)
      refine ⟨_, sandbox,
        @answer_endpointInfo _ (arguments.network, arguments.endpoint) _ known,
        reports.sandbox.trans joined, fun options => ?_⟩
      refine restores_of_grants .join fun _ => ⟨_, .joined (getElem?_putEndpoint_self ..)
        Std.ExtTreeMap.getElem?_insert_self rfl, ?_⟩
      have rejoined : { value with sandbox := some sandbox } = value := by rw [← joined]
      rw [rejoined]
      exact putEndpoint_putEndpoint stored present _

theorem restores_inverse {request undo : Request} (undoes : request.inverse? = some undo)
    (succeeded : (serve registry ⟨drawn, request⟩).answer.isOk = true) :
    Restores (serve registry ⟨drawn, request⟩).state registry undo := by
  cases request with
  | createNetwork arguments =>
      cases undoes
      exact restores_createNetwork succeeded
  | createEndpoint arguments =>
      cases undoes
      exact restores_createEndpoint succeeded
  | join arguments =>
      cases undoes
      exact restores_join succeeded
  | _ => cases undoes

/-! ## Making an endpoint again -/

structure MakesAlike (arguments : EndpointArguments)
    (first second : Turn Registry (Except Failure Response)) : Prop where
  answers : ∃ answered repeated : InterfaceText,
    first.answer = .ok (.endpoint ⟨some answered⟩) ∧
    second.answer = .ok (.endpoint ⟨some repeated⟩) ∧
    repeated.ipv4 = answered.ipv4 ∧ repeated.ipv6 = answered.ipv6
  endpoints : ∃ one other : Endpoint,
    endpoint? first.state arguments.network arguments.endpoint = some one ∧
    endpoint? second.state arguments.network arguments.endpoint = some other ∧
    ∀ family, other.address family = one.address family

theorem makesAlike_again {arguments : EndpointArguments}
    (succeeded : (serve registry ⟨drawn, .createEndpoint arguments⟩).answer.isOk = true)
    (again : HardwareAddress) :
    MakesAlike arguments (serve registry ⟨drawn, .createEndpoint arguments⟩)
      (serve registry ⟨again, .createEndpoint arguments⟩) := by
  obtain ⟨requested, owner, value, created⟩ := created_of_isOk succeeded
  obtain ⟨ipv4, ipv6, assigned, assignedV6, rfl⟩ := Network.newEndpoint_eq_ok.mp created.made
  have repeated : Created registry again arguments requested owner _ :=
    ⟨created.read, created.stored, created.absent,
      Network.newEndpoint_eq_ok.mpr ⟨ipv4, ipv6, assigned, assignedV6, rfl⟩⟩
  have known (value : Endpoint) :
      endpoint? (registry.putEndpoint arguments.network arguments.endpoint owner value)
        arguments.network arguments.endpoint = some value :=
    (endpoint?_putEndpoint created.stored _ _ (arguments.network, arguments.endpoint)).trans
      (if_pos rfl)
  rw [created.serve_eq, repeated.serve_eq]
  constructor
  · exact ⟨_, _, rfl, rfl, rfl, rfl⟩
  · refine ⟨_, _, known _, known _, ?_⟩
    rintro (_ | _) <;> rfl

/-! ## All requests -/

/-- Whatever a request makes, joins or leaves can be taken back right after, with no trace left
in the registry, and an endpoint that is made again gets the addresses that it had. -/
theorem requests_taken_back (registry : Registry) (drawn : HardwareAddress) :
    (∀ arguments,
      let made := serve registry ⟨drawn, .createNetwork arguments⟩
      made.answer.isOk = true →
        Restores made.state registry (.deleteNetwork ⟨arguments.network⟩)) ∧
    (∀ arguments,
      let made := serve registry ⟨drawn, .createEndpoint arguments⟩
      made.answer.isOk = true →
        Restores made.state registry
            (.deleteEndpoint ⟨arguments.network, arguments.endpoint⟩) ∧
          ∀ other again,
            let deleted := serve made.state
              ⟨other, .deleteEndpoint ⟨arguments.network, arguments.endpoint⟩⟩
            MakesAlike arguments made
              (serve deleted.state ⟨again, .createEndpoint arguments⟩)) ∧
    (∀ arguments,
      let joined := serve registry ⟨drawn, .join arguments⟩
      joined.answer.isOk = true →
        Restores joined.state registry (.leave ⟨arguments.network, arguments.endpoint⟩)) ∧
    ∀ arguments,
      let left := serve registry ⟨drawn, .leave arguments⟩
      left.answer.isOk = true →
        ∃ (report : Dictionary String) (sandbox : String),
          (∀ asking, (serve registry ⟨asking, .endpointInfo arguments⟩).answer =
            .ok (.report ⟨report⟩)) ∧
          report["sandbox_key"]? = some sandbox ∧
          ∀ options, Restores left.state registry
            (.join ⟨arguments.network, arguments.endpoint, sandbox, options⟩) := by
  refine ⟨fun _ => restores_createNetwork, ?_, fun _ => restores_join, fun _ => restores_leave⟩
  intro arguments made succeeded
  have restores := restores_createEndpoint succeeded
  refine ⟨restores, ?_⟩
  intro other again deleted
  have restored : deleted.state = registry := restores.state other
  rw [restored]
  exact makesAlike_again succeeded again

/-- The second endpoint of a network comes and goes, and the first one leaves its sandbox and is
joined to it again. -/
theorem endpoints_taken_back :
    let registry := run ∅ [.makeNetwork "blue" "10.0.0.7/29", .makeEndpoint "blue" "one",
      ⟨default, .join ⟨"blue", "one", "", ∅⟩⟩]
    let made := serve registry (.makeEndpoint "blue" "two")
    let left := serve registry ⟨default, .leave ⟨"blue", "one"⟩⟩
    made.answer.isOk = true ∧ Restores made.state registry (.deleteEndpoint ⟨"blue", "two"⟩) ∧
      left.answer.isOk = true ∧
      ∀ options, Restores left.state registry (.join ⟨"blue", "one", "", options⟩) := by
  intro registry made left
  have created : made.answer.isOk = true := rfl
  have gone : left.answer.isOk = true := rfl
  obtain ⟨-, endpoint, -, sandbox⟩ := requests_taken_back registry default
  obtain ⟨report, key, told, known, rejoins⟩ := sandbox _ gone
  obtain ⟨value, present, joined⟩ := Option.map_eq_some_iff.mp
    (show (endpoint? registry "blue" "one").map (·.sandbox) = some (some "") from rfl)
  have reported := @answer_endpointInfo _ ("blue", "one") _ present default
  cases (told default).symm.trans reported
  have same := (value.reports_report ("blue", "one")).sandbox
  rw [known, joined] at same
  cases same
  exact ⟨created, (endpoint _ created).1, gone, rejoins⟩

theorem run_unwound {inputs undoing : List Input}
    (succeeded : ∀ turn ∈ Session.turns serve registry inputs, turn.answer.isOk = true)
    (undoes : List.Forall₂ (fun input undo => input.request.inverse? = some undo.request)
      inputs undoing) :
    run (run registry inputs) undoing.reverse = registry := by
  induction undoes generalizing registry with
  | nil => rfl
  | @cons input undo inputs undoing first rest ih =>
      rw [Session.turns, List.forall_mem_cons] at succeeded
      rw [List.reverse_cons, run_append]
      change (serve (run (run (serve registry input).state inputs) undoing.reverse) undo).state =
        registry
      rw [ih succeeded.2]
      exact (restores_inverse first succeeded.1).state undo.drawn

end Registry

end NetworkPlugin
