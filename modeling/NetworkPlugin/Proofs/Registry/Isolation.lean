import NetworkPlugin.Proofs.Registry.Creation

/-!
# Isolation of networks

What happens on a network depends on nothing but the calls on it since it was made:
calls on other networks, requests that make no call, and earlier lives of a network of
the same name can all be left out of a session.  The proof relates the registry of the
session to that of the shortened one, of which only the entry of the network has to agree.
-/

namespace NetworkPlugin

namespace Request

def network? : Request → Option String
  | getCapabilities => none
  | createNetwork arguments => some arguments.network
  | allocateNetwork arguments => some arguments.network
  | deleteNetwork arguments => some arguments.network
  | freeNetwork arguments => some arguments.network
  | createEndpoint arguments => some arguments.network
  | deleteEndpoint arguments => some arguments.network
  | endpointInfo arguments => some arguments.network
  | join arguments => some arguments.network
  | leave arguments => some arguments.network
  | discoverNew _ => none
  | discoverDelete _ => none
  | programExternalConnectivity arguments => some arguments.network
  | revokeExternalConnectivity arguments => some arguments.network

def makesCall (request : Request) : Bool :=
  match request.plan with
  | .ask .. => true
  | .answer _ => false

theorem network?_of_ask {request : Request} {call : Call} {respond : call.Reply → Response}
    (planned : request.plan = .ask call respond) : request.network? = some call.network := by
  cases asks_of_plan planned <;> rfl

end Request

namespace Registry

/-- Whether an input reaches the engine for a network. -/
def Input.isOn (network : String) (input : Input) : Bool :=
  input.request.makesCall && decide (input.request.network? = some network)

theorem Input.isOn_of_ask {network : String} {input : Input} {call : Call}
    {respond : call.Reply → Response} (planned : input.request.plan = .ask call respond) :
    input.isOn network = decide (call.network = network) := by
  simp [Input.isOn, Request.makesCall, planned, Request.network?_of_ask planned]

structure SameOn (network : String) (one other : Turn Registry (Except Failure Response)) :
    Prop where
  answer : one.answer = other.answer
  events : one.events = other.events
  stored : one.state[network]? = other.state[network]?

/-! ## One request -/

theorem serve_sameOn {network : String} {one other : Registry} {input : Input}
    (named : input.request.network? = some network)
    (agree : one[network]? = other[network]?) :
    SameOn network (serve one input) (serve other input) := by
  cases served one input with
  | known result planned =>
      rw [serve_of_answer planned, serve_of_answer planned]
      exact ⟨rfl, rfl, agree⟩
  | granted call respond turn planned granted =>
      obtain rfl : call.network = network :=
        Option.some.inj ((Request.network?_of_ask planned).symm.trans named)
      obtain ⟨state, granted', stored⟩ := granted.congr agree
      rw [serve_of_grants planned granted, serve_of_grants planned granted']
      exact ⟨rfl, rfl, stored⟩
  | refused call respond refusal planned refused =>
      obtain rfl : call.network = network :=
        Option.some.inj ((Request.network?_of_ask planned).symm.trans named)
      rw [serve_of_refuses planned refused, serve_of_refuses planned (refused.congr agree)]
      exact ⟨rfl, rfl, agree⟩

theorem serve_frame {network : String} {registry : Registry} {input : Input}
    (elsewhere : input.isOn network = false) :
    (serve registry input).state[network]? = registry[network]? := by
  cases served registry input with
  | known result planned => rw [serve_of_answer planned]
  | granted call respond turn planned granted =>
      rw [Input.isOn_of_ask planned, decide_eq_false_iff_not] at elsewhere
      rw [serve_of_grants planned granted]
      exact granted.frame elsewhere
  | refused call respond refusal planned refused => rw [serve_of_refuses planned refused]

/-! ## Sessions -/

theorem run_filter_isOn {network : String} {one other : Registry}
    (agree : one[network]? = other[network]?) (inputs : List Input) :
    (run one inputs)[network]? = (run other (inputs.filter (Input.isOn network)))[network]? := by
  induction inputs generalizing one other with
  | nil => exact agree
  | cons input inputs ih =>
      cases on : input.isOn network with
      | false =>
          rw [List.filter_cons_of_neg (by simp [on])]
          exact ih ((serve_frame on).trans agree)
      | true =>
          rw [List.filter_cons_of_pos on]
          have named : input.request.network? = some network := by
            simp only [Input.isOn, Bool.and_eq_true, decide_eq_true_eq] at on
            exact on.2
          exact ih (serve_sameOn named agree).stored

theorem absent_of_created {registry : Registry} {drawn : HardwareAddress}
    {arguments : NetworkArguments Json}
    (created : (serve registry ⟨drawn, .createNetwork arguments⟩).answer.isOk = true) :
    registry[arguments.network]? = none := by
  obtain ⟨ipv4, ipv6, made⟩ := networkCreated_of_isOk created
  exact made.absent

/-- Requests on a network are answered, recorded and carried out as if nothing else had
been asked of the registry, nor anything before the network was last made. -/
theorem networks_isolated (network : String) (inputs : List Input) (given : Input)
    (named : given.request.network? = some network) :
    SameOn network (serve (run ∅ inputs) given)
      (serve (run ∅ (inputs.filter (Input.isOn network))) given) ∧
    ∀ before drawn arguments after,
      inputs = before ++ ⟨drawn, .createNetwork arguments⟩ :: after →
      arguments.network = network →
      (serve (run ∅ before) ⟨drawn, .createNetwork arguments⟩).answer.isOk = true →
      SameOn network (serve (run ∅ inputs) given)
        (serve
          (run ∅ ((⟨drawn, .createNetwork arguments⟩ :: after).filter (Input.isOn network)))
          given) := by
  refine ⟨serve_sameOn named (run_filter_isOn rfl inputs), ?_⟩
  rintro before drawn arguments after rfl rfl created
  rw [run_append]
  refine serve_sameOn named (run_filter_isOn ?_ _)
  -- A network that can be made is absent, as from the empty registry.
  rw [absent_of_created created]
  exact Std.ExtTreeMap.getElem?_empty.symm

/-- A network that is made again is like a new one, whatever the pools of others are. -/
theorem recreated_network_isolated :
    SameOn "blue"
      (serve
        (run ∅
          [.makeNetwork "blue" "10.0.0.0/30", .makeEndpoint "blue" "old",
            .makeNetwork "red" "10.0.0.0/30", .makeEndpoint "red" "first",
            ⟨default, .deleteEndpoint ⟨"blue", "old"⟩⟩, ⟨default, .deleteNetwork ⟨"blue"⟩⟩,
            .makeNetwork "blue" "10.0.0.0/30", .makeEndpoint "red" "second"])
        (.makeEndpoint "blue" "new"))
      (serve (run ∅ [.makeNetwork "blue" "10.0.0.0/30"]) (.makeEndpoint "blue" "new")) :=
  (networks_isolated "blue" _ (.makeEndpoint "blue" "new") rfl).2
    [.makeNetwork "blue" "10.0.0.0/30", .makeEndpoint "blue" "old",
      .makeNetwork "red" "10.0.0.0/30", .makeEndpoint "red" "first",
      ⟨default, .deleteEndpoint ⟨"blue", "old"⟩⟩, ⟨default, .deleteNetwork ⟨"blue"⟩⟩]
    default _ [.makeEndpoint "red" "second"] rfl rfl rfl

end Registry

end NetworkPlugin
