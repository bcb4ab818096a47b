import NetworkPlugin.Proofs.Phase
import NetworkPlugin.Proofs.Registry.Assignment
import NetworkPlugin.Proofs.Session

/-!
# The life of an endpoint

What may be done to an endpoint depends on the last thing that was done to it, and on
nothing else.  An endpoint is absent, idle or joined; the registry knows which, and every
request moves each endpoint as the automaton of these phases allows.  The phase is
therefore determined by the last successful deed, across all networks of the name.
-/

namespace NetworkPlugin

/-! ## Deeds of requests and calls -/

def Request.deed? : Request → Option (Deed × String × String)
  | createEndpoint arguments => some (.create, arguments.network, arguments.endpoint)
  | join arguments => some (.join, arguments.network, arguments.endpoint)
  | leave arguments => some (.leave, arguments.network, arguments.endpoint)
  | deleteEndpoint arguments => some (.delete, arguments.network, arguments.endpoint)
  | _ => none

def Call.deed? : Call → Option (Deed × String × String)
  | createEndpoint network endpoint .. => some (.create, network, endpoint)
  | join network endpoint .. => some (.join, network, endpoint)
  | leave network endpoint => some (.leave, network, endpoint)
  | deleteEndpoint network endpoint => some (.delete, network, endpoint)
  | _ => none

def Deed.on? (names : String × String) (done : Option (Deed × String × String)) :
    Option Deed :=
  done.bind fun (deed, others) => if others = names then some deed else none

theorem Deed.on?_self (deed : Deed) (names : String × String) :
    Deed.on? names (some (deed, names)) = some deed := if_pos rfl

theorem Deed.on?_of_ne {names others : String × String} (other : others ≠ names) (deed : Deed) :
    Deed.on? names (some (deed, others)) = none := if_neg other

theorem Request.deed?_of_ask {request : Request} {call : Call} {respond : call.Reply → Response}
    (planned : request.plan = .ask call respond) : request.deed? = call.deed? := by
  cases asks_of_plan planned <;> rfl

theorem Request.deed?_of_answer {request : Request} {response : Response}
    (planned : request.plan = .answer (.ok response)) : request.deed? = none := by
  cases request with
  | createEndpoint arguments =>
      simp only [plan] at planned
      split at planned <;> cases planned
  | deleteEndpoint | join | leave => cases planned
  | _ => rfl

namespace Registry

variable {drawn : HardwareAddress} {registry : Registry}

/-! ## Phases in the registry -/

/-- An endpoint is joined if it has a sandbox, whose name may be empty. -/
def phaseOf : Option Endpoint → Phase
  | none => .absent
  | some value => if value.sandbox.isSome then .joined else .idle

def phase (registry : Registry) (names : String × String) : Phase :=
  phaseOf (endpoint? registry names.1 names.2)

theorem phaseOf_idle {value : Endpoint} (idle : value.sandbox = none) :
    phaseOf (some value) = .idle := by
  simp [phaseOf, idle]

theorem phaseOf_joined {value : Endpoint} {sandbox : String}
    (joined : value.sandbox = some sandbox) : phaseOf (some value) = .joined := by
  simp [phaseOf, joined]

theorem sandbox_of_newEndpoint {owner : Network} {requested : Interface} {value : Endpoint}
    (made : owner.newEndpoint requested drawn = .ok value) : value.sandbox = none := by
  obtain ⟨ipv4, ipv6, -, -, rfl⟩ := Network.newEndpoint_eq_ok.mp made
  rfl

theorem follow_of_same {other : Registry} {names : String × String}
    (same : endpoint? other names.1 names.2 = endpoint? registry names.1 names.2) :
    (phase registry names).follow none = some (phase other names) := by
  rw [phase, phase, same]
  rfl

theorem follow_of_change {other : Registry} {changed : String × String} {deed : Deed}
    {before after : Option Endpoint}
    (found : endpoint? registry changed.1 changed.2 = before)
    (change : ∀ names : String × String, endpoint? other names.1 names.2 =
      if changed = names then after else endpoint? registry names.1 names.2)
    (moved : (phaseOf before).next deed = some (phaseOf after)) (names : String × String) :
    (phase registry names).follow (Deed.on? names (some (deed, changed))) =
      some (phase other names) := by
  by_cases same : changed = names
  · subst same
    rw [Deed.on?_self, phase, phase, change, if_pos rfl, found]
    exact moved
  · rw [Deed.on?_of_ne same, phase, phase, change, if_neg same]
    rfl

theorem Grants.follow {call : Call} {turn : Turn Registry call.Reply}
    (granted : Grants drawn registry call turn) (names : String × String) :
    (phase registry names).follow (Deed.on? names call.deed?) =
      some (phase turn.state names) := by
  cases granted with
  | networkCreated absent => exact follow_of_same (endpoint?_insert_empty absent rfl _ _)
  | networkDeleted stored empty => exact follow_of_same (endpoint?_erase_empty stored empty _ _)
  | endpointReported stored present => exact follow_of_same rfl
  | endpointCreated stored absent made =>
      refine follow_of_change ((endpoint?_of_some stored _).trans absent)
        (endpoint?_putEndpoint stored _ _) ?_ names
      rw [phaseOf_idle (sandbox_of_newEndpoint made)]
      rfl
  | endpointDeleted stored present idle =>
      refine follow_of_change ((endpoint?_of_some stored _).trans present)
        (endpoint?_dropEndpoint stored _) ?_ names
      rw [phaseOf_idle idle]
      rfl
  | joined stored present idle =>
      refine follow_of_change ((endpoint?_of_some stored _).trans present)
        (endpoint?_putEndpoint stored _ _) ?_ names
      rw [phaseOf_idle idle, phaseOf_joined rfl]
      rfl
  | left stored present joined =>
      refine follow_of_change ((endpoint?_of_some stored _).trans present)
        (endpoint?_putEndpoint stored _ _) ?_ names
      rw [phaseOf_joined joined, phaseOf_idle rfl]
      rfl

/-! ## Phases and the past -/

def deeds (names : String × String) (past : List (Request × Except Failure Response)) :
    List Deed :=
  past.filterMap fun (request, answer) =>
    if answer.isOk then Deed.on? names request.deed? else none

theorem deeds_append (names : String × String)
    (past : List (Request × Except Failure Response)) (request : Request)
    (answer : Except Failure Response) :
    deeds names (past ++ [(request, answer)]) =
      deeds names past ++ (if answer.isOk then Deed.on? names request.deed? else none).toList := by
  rw [deeds, List.filterMap_append, ← deeds]
  congr 1

structure Accounts (past : List Deed) (phase : Phase) : Prop where
  last : phase = .after past.getLast?
  leads : phase.Leads past

theorem Accounts.follow {past : List Deed} {phase other : Phase} {deed : Option Deed}
    (accounts : Accounts past phase) (moved : phase.follow deed = some other) :
    Accounts (past ++ deed.toList) other := by
  cases deed with
  | none =>
      cases moved
      simpa using accounts
  | some deed =>
      have last : other = .after (some deed) := Phase.eq_after_of_next moved
      exact ⟨by simpa using last, accounts.leads.next moved⟩

theorem serve_follow (registry : Registry) (input : Input) (names : String × String) :
    (phase registry names).follow
        (if (serve registry input).answer.isOk then Deed.on? names input.request.deed?
          else none) =
      some (phase (serve registry input).state names) := by
  cases served registry input with
  | known result planned =>
      rw [serve_of_answer planned]
      cases result with
      | error failure => rfl
      | ok response =>
          rw [Request.deed?_of_answer planned]
          rfl
  | granted call respond turn planned granted =>
      rw [serve_of_grants planned granted, Request.deed?_of_ask planned]
      exact granted.follow names
  | refused call respond refusal planned refused =>
      rw [serve_of_refuses planned refused]
      rfl

theorem run_accounts (names : String × String) (inputs : List Input) :
    Accounts (deeds names (history ∅ inputs)) (phase (run ∅ inputs) names) := by
  refine run_induction (P := fun registry past => Accounts (deeds names past)
    (phase registry names)) ?_ ?_ inputs
  · exact ⟨rfl, Language.nil_mem_kstar _⟩
  · intro registry past input accounts
    rw [deeds_append]
    exact accounts.follow (serve_follow registry input names)

/-! ## Endpoints that have to be there -/

inductive Query where
  | info
  | join (sandbox : String) (options : Options)
  | leave
  | delete

namespace Query

def request (names : String × String) : Query → Request
  | info => .endpointInfo ⟨names.1, names.2⟩
  | join sandbox options => .join ⟨names.1, names.2, sandbox, options⟩
  | leave => .leave ⟨names.1, names.2⟩
  | delete => .deleteEndpoint ⟨names.1, names.2⟩

def call (names : String × String) : Query → Call
  | info => .endpointInfo names.1 names.2
  | join sandbox options => .join names.1 names.2 sandbox options
  | leave => .leave names.1 names.2
  | delete => .deleteEndpoint names.1 names.2

def verdict : Query → Phase → Option FailureKind
  | _, .absent => some .notFound
  | info, _ | join .., .idle | delete, .idle | leave, .joined => none
  | leave, .idle | join .., .joined | delete, .joined => some .forbidden

theorem verdict_absent (query : Query) : query.verdict .absent = some .notFound := by
  cases query <;> rfl

theorem verdict_info {phase : Phase} : info.verdict phase = none ↔ phase ≠ .absent := by
  cases phase <;> simp [verdict]

theorem verdict_join {phase : Phase} (sandbox : String) (options : Options) :
    (join sandbox options).verdict phase = none ↔ phase = .idle := by
  cases phase <;> simp [verdict]

theorem verdict_leave {phase : Phase} : leave.verdict phase = none ↔ phase = .joined := by
  cases phase <;> simp [verdict]

theorem verdict_delete {phase : Phase} : delete.verdict phase = none ↔ phase = .idle := by
  cases phase <;> simp [verdict]

theorem verdict_eq_notFound {query : Query} {phase : Phase} :
    query.verdict phase = some .notFound ↔ phase = .absent := by
  cases query <;> cases phase <;> simp [verdict]

theorem verdict_eq_forbidden {query : Query} {phase : Phase}
    (fails : query.verdict phase ≠ none) (present : phase ≠ .absent) :
    query.verdict phase = some .forbidden := by
  cases query <;> cases phase <;> simp_all [verdict]

theorem plan_request (query : Query) (names : String × String) :
    ∃ respond, (query.request names).plan = .ask (query.call names) respond := by
  cases query <;> exact ⟨_, rfl⟩

theorem network_call (query : Query) (names : String × String) :
    (query.call names).network = names.1 := by
  cases query <;> rfl

theorem makesNetwork_call (query : Query) (names : String × String) :
    (query.call names).makesNetwork = false := by
  cases query <;> rfl

theorem knownEndpoint?_call (query : Query) (names : String × String) :
    (query.call names).knownEndpoint? = some names.2 := by
  cases query <;> rfl

end Query

theorem serve_query (drawn : HardwareAddress) (registry : Registry) (names : String × String)
    (query : Query) :
    Fares (query.verdict (phase registry names))
      (serve registry ⟨drawn, query.request names⟩).answer := by
  obtain ⟨respond, planned⟩ := query.plan_request names
  cases stored : registry[names.1]? with
  | none =>
      rw [phase, endpoint?_of_none stored, phaseOf, query.verdict_absent]
      rw [← query.network_call names] at stored
      exact fares_of_refuses planned (.networkUnknown (query.makesNetwork_call names) stored)
  | some owner =>
      rw [phase, endpoint?_of_some stored]
      cases present : owner.endpoints[names.2]? with
      | none =>
          rw [phaseOf, query.verdict_absent]
          rw [← query.network_call names] at stored
          exact fares_of_refuses planned
            (.endpointUnknown (query.knownEndpoint?_call names) stored present)
      | some value =>
          cases state : value.sandbox with
          | none =>
              rw [phaseOf_idle state]
              cases query with
              | info => exact fares_of_grants planned (.endpointReported stored present)
              | join sandbox options =>
                  exact fares_of_grants planned (.joined stored present state)
              | leave => exact fares_of_refuses planned (.notJoined stored present state)
              | delete => exact fares_of_grants planned (.endpointDeleted stored present state)
          | some sandbox =>
              rw [phaseOf_joined state]
              cases query with
              | info => exact fares_of_grants planned (.endpointReported stored present)
              | join sandbox options =>
                  exact fares_of_refuses planned (.alreadyJoined stored present state)
              | leave => exact fares_of_grants planned (.left stored present state)
              | delete => exact fares_of_refuses planned (.stillJoined stored present state)

/-! ## Endpoints that must not be there -/

theorem kind_of_newEndpoint {owner : Network} {requested : Interface} {refusal : Refusal}
    (failed : owner.newEndpoint requested drawn = .error refusal) :
    refusal.kind ≠ .forbidden := by
  have kind : refusal.kind = .badRequest ∨ refusal.kind = .noService := by
    rcases Network.newEndpoint_eq_error failed with denied | denied <;> exact denied.kind
  rcases kind with isKind | isKind <;> simp [isKind]

theorem serve_createEndpoint {arguments : EndpointArguments} {interface : Interface}
    (drawn : HardwareAddress) (known : registry.contains arguments.network = true)
    (read : Interface.ofText? arguments.interface = .ok interface) :
    Fares (some .forbidden) (serve registry ⟨drawn, .createEndpoint arguments⟩).answer ↔
      phase registry (arguments.network, arguments.endpoint) ≠ .absent := by
  have readable : readInterface arguments = .ok interface := by
    rw [readInterface, read, Except.mapError_ok]
  have planned := (Asks.createEndpoint readable).plan_eq
  cases stored : registry[arguments.network]? with
  | none => simp [Dictionary.contains_of_none stored] at known
  | some owner =>
      rw [phase, endpoint?_of_some stored]
      cases present : owner.endpoints[arguments.endpoint]? with
      | some value =>
          refine iff_of_true (fares_of_refuses planned (.endpointExists stored present)) ?_
          simp only [phaseOf]
          split <;> simp
      | none =>
          refine iff_of_false ?_ (by simp [phaseOf])
          cases made : owner.newEndpoint interface drawn with
          | ok value =>
              rw [(fares_of_grants planned (.endpointCreated stored present made)).iff]
              simp
          | error refusal =>
              rw [(fares_of_refuses planned (.notAssigned stored present made)).iff]
              simp [Ne.symm (kind_of_newEndpoint made)]

/-! ## After the last deed -/

/-- How requests about an endpoint fare when this was the last deed done to it. -/
structure ObeysLast (registry : Registry) (names : String × String) (last : Option Deed) :
    Prop where
  join : ∀ drawn sandbox options,
    (serve registry ⟨drawn, .join ⟨names.1, names.2, sandbox, options⟩⟩).answer.isOk = true ↔
      last = some .create ∨ last = some .leave
  leave : ∀ drawn,
    (serve registry ⟨drawn, .leave ⟨names.1, names.2⟩⟩).answer.isOk = true ↔
      last = some .join
  delete : ∀ drawn,
    (serve registry ⟨drawn, .deleteEndpoint ⟨names.1, names.2⟩⟩).answer.isOk = true ↔
      last = some .create ∨ last = some .leave
  info : ∀ drawn,
    (serve registry ⟨drawn, .endpointInfo ⟨names.1, names.2⟩⟩).answer.isOk = true ↔
      last ≠ none ∧ last ≠ some .delete
  notFound : ∀ drawn (query : Query),
    Fares (some .notFound) (serve registry ⟨drawn, query.request names⟩).answer ↔
      last = none ∨ last = some .delete
  forbidden : ∀ drawn (query : Query),
    (serve registry ⟨drawn, query.request names⟩).answer.isOk = false →
      last ≠ none → last ≠ some .delete →
      Fares (some .forbidden) (serve registry ⟨drawn, query.request names⟩).answer
  create : ∀ drawn (interface : Option InterfaceText) options read,
    registry.contains names.1 = true → Interface.ofText? interface = .ok read →
    (Fares (some .forbidden)
        (serve registry ⟨drawn, .createEndpoint ⟨names.1, names.2, interface, options⟩⟩).answer ↔
      last = some .create ∨ last = some .join ∨ last = some .leave)

theorem obeysLast_of_phase {names : String × String} {last : Option Deed}
    (accounted : phase registry names = .after last) : ObeysLast registry names last := by
  have fares (drawn : HardwareAddress) (query : Query) :
      Fares (query.verdict (.after last))
        (serve registry ⟨drawn, query.request names⟩).answer := by
    rw [← accounted]
    exact serve_query drawn registry names query
  refine ⟨?join, ?leave, ?delete, ?info, ?notFound, ?forbidden, ?create⟩
  case join =>
    intro drawn sandbox options
    exact (fares drawn (.join sandbox options)).isOk_iff.trans
      ((Query.verdict_join sandbox options).trans Phase.after_eq_idle)
  case leave =>
    intro drawn
    exact (fares drawn .leave).isOk_iff.trans
      (Query.verdict_leave.trans Phase.after_eq_joined)
  case delete =>
    intro drawn
    exact (fares drawn .delete).isOk_iff.trans
      (Query.verdict_delete.trans Phase.after_eq_idle)
  case info =>
    intro drawn
    refine (fares drawn .info).isOk_iff.trans (Query.verdict_info.trans ?_)
    rw [Ne, Phase.after_eq_absent, not_or]
  case notFound =>
    intro drawn query
    rw [(fares drawn query).iff, eq_comm, Query.verdict_eq_notFound, Phase.after_eq_absent]
  case forbidden =>
    intro drawn query failed known undeleted
    have failing : query.verdict (.after last) ≠ none := by
      rw [Ne, ← (fares drawn query).isOk_iff, failed]
      simp
    have present : Phase.after last ≠ .absent := by
      rw [Ne, Phase.after_eq_absent, not_or]
      exact ⟨known, undeleted⟩
    exact (fares drawn query).iff.mpr (Query.verdict_eq_forbidden failing present).symm
  case create =>
    intro drawn interface options read known readable
    refine (serve_createEndpoint drawn known readable).trans ?_
    rw [Prod.mk.eta, accounted]
    rcases last with - | (- | - | - | -) <;> simp [Phase.after]

/-- What can be done to an endpoint is decided by the last deed done to it, whatever
happened in between, so that its deeds make up lives of which the last may be going on. -/
theorem endpoint_lives (names : String × String) (inputs : List Input) :
    ObeysLast (run ∅ inputs) names (deeds names (history ∅ inputs)).getLast? ∧
      ∃ whole ∈ Deed.lives, deeds names (history ∅ inputs) <+: whole := by
  obtain ⟨last, leads⟩ := run_accounts names inputs
  exact ⟨obeysLast_of_phase last, leads.extends⟩

/-- The empty name of a sandbox counts, so that the endpoint cannot be deleted. -/
example : deeds ("blue", "one")
    (history ∅ [.makeNetwork "blue" "10.0.0.0/30", .makeEndpoint "blue" "one",
      ⟨default, .join ⟨"blue", "one", "", ∅⟩⟩,
      ⟨default, .deleteEndpoint ⟨"blue", "one"⟩⟩]) = [.create, .join] := by
  rfl

end Registry

end NetworkPlugin
