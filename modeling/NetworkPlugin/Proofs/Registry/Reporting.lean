import NetworkPlugin.Proofs.Past
import NetworkPlugin.Proofs.Registry.Lifecycle
import NetworkPlugin.Proofs.Registry.Reassignment

/-!
# What is reported of an endpoint

What was requested for an endpoint and what the answer said was assigned to it are, taken
together, what is reported of it as long as it is there.  Every request either leaves an
endpoint as it is or attaches it to another sandbox, so that a report differs from the one
before only in the sandbox, and that one is told by the past.
-/

namespace NetworkPlugin

/-! ## Attachments in the past -/

/-- The sandbox that an endpoint has after a request on it, which is none for one that makes
it leave, if the request changes that at all. -/
def Request.moves? (names : String × String) : Request → Option (Option String)
  | join arguments =>
      if (arguments.network, arguments.endpoint) = names then some (some arguments.sandbox)
      else none
  | leave arguments =>
      if (arguments.network, arguments.endpoint) = names then some none else none
  | _ => none

def Past.sandbox? (names : String × String) (past : Past) : Option String :=
  (done (Request.moves? names) past).getLast?.getD none

/-! ## Reports -/

structure Reports (report : Dictionary String) (names : String × String)
    (hardware ipv4 ipv6 sandbox : Option String) : Prop where
  id : report["id"]? = some names.2
  network : report["network_id"]? = some names.1
  hardware : report["mac_address"]? = hardware
  ipv4 : report["address"]? = ipv4
  ipv6 : report["address_ipv6"]? = ipv6
  sandbox : report["sandbox_key"]? = sandbox
  others : ∀ field : String,
    field ∉ ["id", "network_id", "mac_address", "address", "address_ipv6", "sandbox_key"] →
      report[field]? = none

theorem Endpoint.reports_report (endpoint : Endpoint) (names : String × String) :
    Reports (endpoint.report names.1 names.2) names (some endpoint.hardware.render)
      (endpoint.ipv4.map Subnet.render) (endpoint.ipv6.map Subnet.render) endpoint.sandbox := by
  refine ⟨?_, ?_, ?_, ?_, ?_, ?_, ?others⟩
  case others =>
    intro field other
    apply Dictionary.getElem?_ofList_filterMap_eq_none
    intro value listed
    exact other (List.mem_map_of_mem (f := (·.1)) listed)
  all_goals exact Dictionary.getElem?_ofList_filterMap_of_mem (by simp) (by simp)

/-- What was said to be assigned, or what was asked for if nothing was. -/
def settled (answered : String) (asked : Option String) : Option String :=
  if answered.isEmpty then asked else some answered

theorem settled_of_fill {Value : Type} {render : Value → String}
    (nonempty : ∀ value, (render value).isEmpty = false) {asked other got : Option Value}
    (filled : (asked <|> if asked.isNone then other else none) = got) :
    settled (Interface.writeSet render (if asked.isNone then other else none))
      (asked.map render) = got.map render := by
  rw [← filled]
  cases asked with
  | some value => rfl
  | none =>
      cases other with
      | none => rfl
      | some value => simp [settled, Interface.writeSet, nonempty]

structure InterfaceText.Completes (text other : InterfaceText) : Prop where
  hardware : other.hardware ≠ "" → text.hardware = ""
  ipv4 : other.ipv4 ≠ "" → text.ipv4 = ""
  ipv6 : other.ipv6 ≠ "" → text.ipv6 = ""

theorem Interface.isSome_of_readSet {Value : Type} {parse? : String → Option Value}
    {fault : String → InterfaceFault} {text : String} {value : Option Value}
    (read : readSet parse? fault text = .ok value) (set : text ≠ "") : value.isSome = true := by
  unfold readSet at read
  rw [if_neg (by simpa using set)] at read
  split at read <;> cases read
  rfl

theorem Endpoint.completes_assignedPart {text : InterfaceText} {requested : Interface}
    (read : Interface.ofText text = .ok requested) (endpoint : Endpoint) :
    (endpoint.assignedPart requested).toText.Completes text := by
  obtain ⟨hardware, ipv4, ipv6⟩ := Interface.ofText_eq_ok.mp read
  have unassigned {Value : Type} {render : Value → String} {asked value : Option Value}
      (set : asked.isSome = true) :
      Interface.writeSet render (if asked.isNone then value else none) = "" := by
    simp [Option.isNone_eq_false_iff.mpr set, Interface.writeSet]
  refine ⟨fun set => ?_, fun set => ?_, fun set => ?_⟩
  · exact unassigned (Interface.isSome_of_readSet hardware set)
  · exact unassigned (Interface.isSome_of_readSet ipv4 set)
  · exact unassigned (Interface.isSome_of_readSet ipv6 set)

namespace Registry

variable {drawn : HardwareAddress} {registry : Registry} {names : String × String}
  {value : Endpoint}

/-! ## What becomes of an endpoint -/

theorem endpoint?_setSandbox {network endpoint : String} {owner : Network} {found : Endpoint}
    (stored : registry[network]? = some owner) (held : owner.endpoints[endpoint]? = some found)
    (present : endpoint? registry names.1 names.2 = some value) (sandbox : Option String) :
    endpoint? (registry.putEndpoint network endpoint owner { found with sandbox }) names.1
        names.2 =
      some { value with
        sandbox := (if (network, endpoint) = names then some sandbox else none).getD
          value.sandbox } := by
  rw [endpoint?_putEndpoint stored]
  split
  · next same =>
      subst same
      rw [endpoint?_of_some stored, held] at present
      cases present
      rfl
  · exact present

theorem Grants.endpoint?_eq {request : Request} {call : Call} {respond : call.Reply → Response}
    {turn : Turn Registry call.Reply} (planned : request.plan = .ask call respond)
    (granted : Grants drawn registry call turn)
    (present : endpoint? registry names.1 names.2 = some value)
    (undeleted : request ≠ .deleteEndpoint ⟨names.1, names.2⟩) :
    endpoint? turn.state names.1 names.2 =
      some { value with sandbox := (request.moves? names).getD value.sandbox } := by
  cases asks_of_plan planned with
  | createNetwork =>
      cases granted with
      | networkCreated absent =>
          exact (endpoint?_insert_empty absent rfl _ _).trans present
  | deleteNetwork =>
      cases granted with
      | networkDeleted stored empty =>
          exact (endpoint?_erase_empty stored empty _ _).trans present
  | endpointInfo =>
      cases granted with
      | endpointReported stored found => exact present
  | createEndpoint =>
      cases granted with
      | endpointCreated stored absent made =>
          rw [endpoint?_putEndpoint stored]
          split
          · next same =>
              subst same
              rw [endpoint?_of_some stored, absent] at present
              cases present
          · exact present
  | @deleteEndpoint arguments =>
      cases granted with
      | endpointDeleted stored found idle =>
          rw [endpoint?_dropEndpoint stored]
          split
          · next same =>
              subst same
              exact absurd rfl undeleted
          · exact present
  | join =>
      cases granted with
      | joined stored found idle => exact endpoint?_setSandbox stored found present _
  | leave =>
      cases granted with
      | left stored found joined => exact endpoint?_setSandbox stored found present none

theorem serve_endpoint?_eq {input : Input}
    (present : endpoint? registry names.1 names.2 = some value)
    (undeleted : ∀ answer, (serve registry input).answer = .ok answer →
      input.request ≠ .deleteEndpoint ⟨names.1, names.2⟩) :
    endpoint? (serve registry input).state names.1 names.2 =
      some { value with
        sandbox := (if (serve registry input).answer.isOk then input.request.moves? names
          else none).getD value.sandbox } := by
  cases served registry input with
  | known result planned =>
      rw [serve_of_answer planned]
      cases result with
      | error failure => exact present
      | ok response =>
          have unneeded := Request.needsEngine_of_answer planned
          have still : input.request.moves? names = none := by
            cases request : input.request <;> rw [request] at unneeded <;>
              first | rfl | cases unneeded
          rw [still]
          exact present
  | granted call respond turn planned granted =>
      have kept := undeleted
      rw [serve_of_grants planned granted] at kept ⊢
      exact granted.endpoint?_eq planned present (kept _ rfl)
  | refused call respond refusal planned refused =>
      rw [serve_of_refuses planned refused]
      exact present

theorem history_cons (registry : Registry) (input : Input) (inputs : List Input) :
    history registry (input :: inputs) =
      (input.request, (serve registry input).answer) ::
        history (serve registry input).state inputs := rfl

theorem run_endpoint?_eq (inputs : List Input)
    (present : endpoint? registry names.1 names.2 = some value)
    (undeleted : ∀ answer,
      (.deleteEndpoint ⟨names.1, names.2⟩, .ok answer) ∉ history registry inputs) :
    endpoint? (run registry inputs) names.1 names.2 =
      some { value with
        sandbox := (Past.done (Request.moves? names)
          (history registry inputs)).getLast?.getD value.sandbox } := by
  induction inputs generalizing registry value with
  | nil => exact present
  | cons input inputs ih =>
      simp only [history_cons, List.mem_cons, not_or] at undeleted
      have now := serve_endpoint?_eq present fun answer answered request =>
        (undeleted answer).1 (by rw [answered, request])
      have later := ih now fun answer => (undeleted answer).2
      rw [history_cons, Past.done_cons, List.getLast?_append]
      refine later.trans ?_
      generalize (Past.done _ (history _ inputs)).getLast? = last
      generalize (if (serve registry input).answer.isOk then _ else none) = moved
      cases last <;> cases moved <;> rfl

/-! ## Reports of an endpoint -/

theorem answer_endpointInfo (present : endpoint? registry names.1 names.2 = some value)
    (drawn : HardwareAddress) :
    (serve registry ⟨drawn, .endpointInfo ⟨names.1, names.2⟩⟩).answer =
      .ok (.report ⟨value.report names.1 names.2⟩) := by
  obtain ⟨owner, stored, found⟩ := Option.bind_eq_some_iff.mp present
  rw [@serve_of_grants registry ⟨drawn, .endpointInfo ⟨names.1, names.2⟩⟩ _ _ _
    Asks.endpointInfo.plan_eq (.endpointReported stored found)]
  rfl

theorem Created.reports {arguments : EndpointArguments} {requested : Interface}
    {owner : Network} (created : Created registry drawn arguments requested owner value)
    (names : String × String) (sandbox : Option String) :
    let answered := (value.assignedPart requested).toText
    Reports (Endpoint.report names.1 names.2 { value with sandbox }) names
      (settled answered.hardware (requested.hardware.map HardwareAddress.render))
      (settled answered.ipv4 (requested.ipv4.map Subnet.render))
      (settled answered.ipv6 (requested.ipv6.map Subnet.render)) sandbox := by
  have filled := Network.fill_assignedPart created.made
  have reports := Endpoint.reports_report { value with sandbox } names
  refine ⟨reports.id, reports.network, ?_, ?_, ?_, reports.sandbox, reports.others⟩
  · rw [reports.hardware]
    exact (settled_of_fill HardwareAddress.isEmpty_render
      (congrArg Interface.hardware filled)).symm
  · rw [reports.ipv4]
    exact (settled_of_fill Subnet.isEmpty_render (congrArg Interface.ipv4 filled)).symm
  · rw [reports.ipv6]
    exact (settled_of_fill Subnet.isEmpty_render (congrArg Interface.ipv6 filled)).symm

/-- The answer to a request for an endpoint sets what the request leaves out, and until the
endpoint is deleted both together are reported of it, with the sandbox that it is joined to. -/
theorem reported_until_deleted {arguments : EndpointArguments}
    (succeeded : (serve registry ⟨drawn, .createEndpoint arguments⟩).answer.isOk = true) :
    let names := (arguments.network, arguments.endpoint)
    let created := serve registry ⟨drawn, .createEndpoint arguments⟩
    ∃ requested answered, Interface.ofText? arguments.interface = .ok requested ∧
      created.answer = .ok (.endpoint ⟨some answered⟩) ∧
      answered.Completes (arguments.interface.getD {}) ∧
      ∀ after asking,
        (∀ answer, (.deleteEndpoint ⟨names.1, names.2⟩, .ok answer) ∉
          history created.state after) →
        ∃ report,
          (serve (run created.state after)
            ⟨asking, .endpointInfo ⟨names.1, names.2⟩⟩).answer = .ok (.report ⟨report⟩) ∧
          Reports report names
            (settled answered.hardware (requested.hardware.map HardwareAddress.render))
            (settled answered.ipv4 (requested.ipv4.map Subnet.render))
            (settled answered.ipv6 (requested.ipv6.map Subnet.render))
            (Past.sandbox? names (history created.state after)) ∧
          report["mac_address"]?.isSome = true := by
  intro names created
  obtain ⟨requested, owner, value, made⟩ := created_of_isOk succeeded
  have read := made.read
  rw [readInterface, Except.mapError_eq_ok] at read
  have readText := read
  rw [Interface.ofText?_eq] at readText
  refine ⟨requested, (value.assignedPart requested).toText, read, ?answer,
    value.completes_assignedPart readText, ?later⟩
  case answer =>
    simp only [created, made.serve_eq]
  case later =>
    intro after asking undeleted
    have present : endpoint? created.state names.1 names.2 = some value := by
      simp only [created, made.serve_eq]
      exact (endpoint?_putEndpoint made.stored _ _ _).trans (if_pos rfl)
    have kept := run_endpoint?_eq after present undeleted
    rw [sandbox_of_newEndpoint made.made] at kept
    have reports := made.reports names (Past.sandbox? names (history created.state after))
    refine ⟨_, answer_endpointInfo kept asking, reports, ?_⟩
    rw [Endpoint.hardware_report]
    rfl

/-- The address that was requested is reported as it is printed, and the first sandbox is
forgotten. -/
theorem second_sandbox_is_reported :
    let registry := run ∅ [⟨default, .createNetwork
      { network := "blue", ipv4 := [{ pool := "10.0.0.7/30" }],
        ipv6 := [{ pool := "fd00::/64" }] }⟩]
    let created := serve registry ⟨default, .createEndpoint
      { network := "blue", endpoint := "one",
        interface := some { ipv6 := "FD00::1/64", hardware := "02-42-AC-11-00-02" } }⟩
    let after : List Input := [⟨default, .join ⟨"blue", "one", "box", ∅⟩⟩,
      ⟨default, .deleteEndpoint ⟨"blue", "one"⟩⟩, ⟨default, .leave ⟨"blue", "one"⟩⟩,
      ⟨default, .join ⟨"blue", "one", "", ∅⟩⟩]
    created.answer.isOk = true ∧
    (∀ answer, (.deleteEndpoint ⟨"blue", "one"⟩, .ok answer) ∉ history created.state after) ∧
    ∃ report,
      (serve (run created.state after) ⟨default, .endpointInfo ⟨"blue", "one"⟩⟩).answer =
        .ok (.report ⟨report⟩) ∧
      Reports report ("blue", "one") (some "02:42:ac:11:00:02") (some "10.0.0.5/30")
        (some "fd00::1/64") (some "") := by
  intro registry created after
  have succeeded : created.answer.isOk = true := rfl
  have done : deeds ("blue", "one") (history created.state after) = [.join, .leave, .join] := rfl
  have undeleted : ∀ answer,
      (.deleteEndpoint ⟨"blue", "one"⟩, .ok answer) ∉ history created.state after := by
    intro answer member
    have deleted : Deed.delete ∈ deeds ("blue", "one") (history created.state after) :=
      List.mem_filterMap.mpr ⟨_, member, rfl⟩
    simp [done] at deleted
  obtain ⟨requested, answered, read, answer, completes, reported⟩ :=
    reported_until_deleted succeeded
  obtain ⟨report, told, reports, -⟩ := reported after default undeleted
  refine ⟨succeeded, undeleted, report, told, ?_⟩
  cases read
  cases answer
  exact reports

end Registry

end NetworkPlugin
