import NetworkPlugin.Dispatch
import NetworkPlugin.Proofs.Registry.Rules

/-!
# Sessions

In a session every input is taken up in the state that the one before it has left.  A
session with a registry also says which hardware address is drawn for each request.
What every request does to the registry is said once, by three cases; what holds
throughout a session follows from them by one induction.
-/

namespace NetworkPlugin

/-! ## Sessions of any kind -/

namespace Session

variable {State Input Answer : Type}

def turns (serve : State → Input → Turn State Answer) (state : State) :
    List Input → List (Turn State Answer)
  | [] => []
  | input :: inputs => serve state input :: turns serve (serve state input).state inputs

def final (serve : State → Input → Turn State Answer) (state : State) (inputs : List Input) :
    State :=
  inputs.foldl (fun state input => (serve state input).state) state

variable {serve : State → Input → Turn State Answer}

theorem turns_append (state : State) (before after : List Input) :
    turns serve state (before ++ after) =
      turns serve state before ++ turns serve (final serve state before) after := by
  induction before generalizing state with
  | nil => rfl
  | cons input before ih => exact congrArg (_ :: ·) (ih _)

theorem forall₂_turns {P : Input → Turn State Answer → Prop}
    (each : ∀ state input, P input (serve state input)) (state : State) (inputs : List Input) :
    List.Forall₂ P inputs (turns serve state inputs) := by
  induction inputs generalizing state with
  | nil => exact .nil
  | cons input inputs ih => exact .cons (each state input) (ih _)

end Session

/-! ## Requests that make a call -/

inductive Asks : Request → (call : Call) → (call.Reply → Response) → Prop
  | createNetwork {arguments ipv4 ipv6} (read : readPools .v4 arguments.ipv4 = .ok ipv4)
      (readV6 : readPools .v6 arguments.ipv6 = .ok ipv6) :
      Asks (.createNetwork arguments)
        (.createNetwork arguments.network arguments.options ipv4 ipv6) fun _ => .done
  | deleteNetwork {arguments} :
      Asks (.deleteNetwork arguments) (.deleteNetwork arguments.network) fun _ => .done
  | createEndpoint {arguments interface} (read : readInterface arguments = .ok interface) :
      Asks (.createEndpoint arguments)
        (.createEndpoint arguments.network arguments.endpoint interface arguments.options)
        fun assigned => .endpoint ⟨some assigned.toText⟩
  | deleteEndpoint {arguments} :
      Asks (.deleteEndpoint arguments) (.deleteEndpoint arguments.network arguments.endpoint)
        fun _ => .done
  | endpointInfo {arguments} :
      Asks (.endpointInfo arguments) (.endpointInfo arguments.network arguments.endpoint)
        fun value => .report ⟨value⟩
  | join {arguments} :
      Asks (.join arguments)
        (.join arguments.network arguments.endpoint arguments.sandbox arguments.options)
        fun attachment => .attachment attachment.toText
  | leave {arguments} :
      Asks (.leave arguments) (.leave arguments.network arguments.endpoint) fun _ => .done

theorem asks_of_plan {request : Request} {call : Call} {respond : call.Reply → Response}
    (planned : request.plan = .ask call respond) : Asks request call respond := by
  cases request with
  | createNetwork arguments =>
      simp only [Request.plan] at planned
      split at planned
      · cases planned
      · cases planned
      · next ipv4 ipv6 read readV6 =>
          cases planned
          exact .createNetwork read readV6
  | createEndpoint arguments =>
      simp only [Request.plan] at planned
      split at planned
      · cases planned
      · next interface read =>
          cases planned
          exact .createEndpoint read
  | deleteNetwork | deleteEndpoint | endpointInfo | join | leave =>
      cases planned
      constructor
  | getCapabilities | allocateNetwork | freeNetwork | discoverNew | discoverDelete |
    programExternalConnectivity | revokeExternalConnectivity => cases planned

theorem Asks.plan_eq {request : Request} {call : Call} {respond : call.Reply → Response}
    (asks : Asks request call respond) : request.plan = .ask call respond := by
  cases asks with
  | createNetwork read readV6 => simp only [Request.plan, read, readV6]
  | createEndpoint read => simp only [Request.plan, read]
  | deleteNetwork | deleteEndpoint | endpointInfo | join | leave => rfl

/-! ## Requests that fail without a call -/

/-- Something in the request cannot be read, or its operation is not implemented. -/
inductive FailsAtOnce : Request → Failure → Prop
  | pools {arguments failure} (unread : readPools .v4 arguments.ipv4 = .error failure) :
      FailsAtOnce (.createNetwork arguments) failure
  | poolsV6 {arguments failure} (unread : readPools .v6 arguments.ipv6 = .error failure) :
      FailsAtOnce (.createNetwork arguments) failure
  | interface {arguments failure} (unread : readInterface arguments = .error failure) :
      FailsAtOnce (.createEndpoint arguments) failure
  | allocateNetwork {arguments} : FailsAtOnce (.allocateNetwork arguments) notImplemented
  | freeNetwork {arguments} : FailsAtOnce (.freeNetwork arguments) notImplemented

theorem failsAtOnce_of_plan {request : Request} {failure : Failure}
    (planned : request.plan = .answer (.error failure)) : FailsAtOnce request failure := by
  cases request with
  | createNetwork arguments =>
      simp only [Request.plan] at planned
      split at planned
      · next unread =>
          cases planned
          exact .pools unread
      · next unread =>
          cases planned
          exact .poolsV6 unread
      · cases planned
  | createEndpoint arguments =>
      simp only [Request.plan] at planned
      split at planned
      · next unread =>
          cases planned
          exact .interface unread
      · cases planned
  | allocateNetwork | freeNetwork =>
      cases planned
      constructor
  | _ => cases planned

/-! ## Carrying out a plan -/

section

variable {State : Type} (engine : Engine State) (state : State) {request : Request}

theorem dispatch_of_answer {result : Except Failure Response}
    (planned : request.plan = .answer result) :
    dispatch engine state request = ⟨result, [request.event result], state⟩ := by
  simp [dispatch, planned, Plan.run, Turn.idle, Turn.log]

theorem dispatch_of_ask {call : Call} {respond : call.Reply → Response}
    (planned : request.plan = .ask call respond) :
    dispatch engine state request =
      ((engine.handle state call).map (·.map respond)).log
        [request.event ((engine.handle state call).answer.map respond)] := by
  simp [dispatch, planned, Plan.run, Turn.map]

end

/-! ## Sessions with a registry -/

namespace Registry

structure Input where
  drawn : HardwareAddress
  request : Request

def Input.makeNetwork (network pool : String) : Input :=
  ⟨default, .createNetwork { network, ipv4 := [{ pool }] }⟩

def Input.makeEndpoint (network endpoint : String) : Input :=
  ⟨default, .createEndpoint { network, endpoint }⟩

def serve (registry : Registry) (input : Input) : Turn Registry (Except Failure Response) :=
  dispatch (engine input.drawn) registry input.request

def run (registry : Registry) (inputs : List Input) : Registry :=
  Session.final serve registry inputs

def history (registry : Registry) (inputs : List Input) :
    List (Request × Except Failure Response) :=
  List.zipWith (fun input turn => (input.request, turn.answer)) inputs
    (Session.turns serve registry inputs)

theorem run_append (registry : Registry) (before after : List Input) :
    run registry (before ++ after) = run (run registry before) after :=
  List.foldl_append

/-! ### One request -/

section

variable {registry : Registry} {input : Input}

theorem serve_of_answer {result : Except Failure Response}
    (planned : input.request.plan = .answer result) :
    serve registry input = ⟨result, [input.request.event result], registry⟩ :=
  dispatch_of_answer _ _ planned

theorem serve_of_grants {call : Call} {respond : call.Reply → Response}
    {turn : Turn Registry call.Reply} (planned : input.request.plan = .ask call respond)
    (granted : Grants input.drawn registry call turn) :
    serve registry input =
      ⟨.ok (respond turn.answer),
        turn.events ++ [input.request.event (.ok (respond turn.answer))], turn.state⟩ := by
  simp [serve, dispatch_of_ask _ _ planned, engine, granted.step_eq, Turn.map, Turn.log,
    Except.map]

theorem serve_of_refuses {call : Call} {respond : call.Reply → Response} {refusal : Refusal}
    (planned : input.request.plan = .ask call respond)
    (refused : Refuses input.drawn registry call refusal) :
    serve registry input =
      ⟨.error refusal.failure, [input.request.event (.error refusal.failure)], registry⟩ := by
  simp [serve, dispatch_of_ask _ _ planned, engine, refused.step_eq, Turn.map, Turn.log,
    Turn.idle, Except.map]

end

/-- What a request comes to: its answer is known without a call, or it makes one call,
which is granted or refused. -/
inductive Served (registry : Registry) (input : Input) : Prop
  | known (result : Except Failure Response) (planned : input.request.plan = .answer result)
  | granted (call : Call) (respond : call.Reply → Response) (turn : Turn Registry call.Reply)
      (planned : input.request.plan = .ask call respond)
      (grants : Grants input.drawn registry call turn)
  | refused (call : Call) (respond : call.Reply → Response) (refusal : Refusal)
      (planned : input.request.plan = .ask call respond)
      (refuses : Refuses input.drawn registry call refusal)

theorem served (registry : Registry) (input : Input) : Served registry input := by
  cases planned : input.request.plan with
  | answer result => exact .known result planned
  | ask call respond =>
      obtain ⟨turn, granted⟩ | ⟨refusal, refused⟩ :=
        grants_or_refuses input.drawn registry call
      · exact .granted call respond turn planned granted
      · exact .refused call respond refusal planned refused

/-! ### Successes and failures -/

inductive Fares : Option FailureKind → Except Failure Response → Prop
  | well (response : Response) : Fares none (.ok response)
  | badly (kind : FailureKind) (message : String) : Fares (some kind) (.error ⟨some kind, message⟩)

theorem Fares.isOk_iff {verdict : Option FailureKind} {answer : Except Failure Response}
    (fares : Fares verdict answer) : answer.isOk = true ↔ verdict = none := by
  cases fares with
  | well response => simp [Except.isOk, Except.toBool]
  | badly kind message => simp [Except.isOk, Except.toBool]

theorem Fares.iff {verdict other : Option FailureKind} {answer : Except Failure Response}
    (fares : Fares verdict answer) : Fares other answer ↔ other = verdict := by
  constructor
  · intro faresToo
    cases fares <;> cases faresToo <;> rfl
  · rintro rfl
    exact fares

section

variable {drawn : HardwareAddress} {registry : Registry}

theorem fares_of_grants {request : Request} {call : Call} {respond : call.Reply → Response}
    {turn : Turn Registry call.Reply} (planned : request.plan = .ask call respond)
    (granted : Grants drawn registry call turn) :
    Fares none (serve registry ⟨drawn, request⟩).answer := by
  rw [serve_of_grants planned granted]
  exact .well _

theorem fares_of_refuses {request : Request} {call : Call} {respond : call.Reply → Response}
    {refusal : Refusal} (planned : request.plan = .ask call respond)
    (refused : Refuses drawn registry call refusal) :
    Fares (some refusal.kind) (serve registry ⟨drawn, request⟩).answer := by
  rw [serve_of_refuses planned refused]
  exact .badly _ _

end

/-! ### All requests -/

/-- What holds at the start and is kept by every request holds after every session; it
may speak of the registry and of all requests so far. -/
theorem run_induction {P : Registry → List (Request × Except Failure Response) → Prop}
    (start : P ∅ [])
    (step : ∀ registry past input, P registry past →
      P (serve registry input).state
        (past ++ [(input.request, (serve registry input).answer)]))
    (inputs : List Input) : P (run ∅ inputs) (history ∅ inputs) := by
  have from_any : ∀ (inputs : List Input) registry past, P registry past →
      P (run registry inputs) (past ++ history registry inputs) := by
    intro inputs
    induction inputs with
    | nil =>
        intro registry past holds
        simpa [run, history, Session.final, Session.turns] using holds
    | cons input inputs ih =>
        intro registry past holds
        simpa [run, history, Session.final, Session.turns] using
          ih _ _ (step registry past input holds)
  simpa using from_any inputs ∅ [] start

/-- Only granted calls change the registry, so that nothing else can break an invariant. -/
theorem run_invariant {P : Registry → Prop} (start : P ∅)
    (step : ∀ {drawn registry call} {turn : Turn Registry call.Reply},
      Grants drawn registry call turn → P registry → P turn.state)
    (inputs : List Input) : P (run ∅ inputs) := by
  refine run_induction (P := fun registry _ => P registry) start ?_ inputs
  intro registry past input holds
  cases served registry input with
  | known result planned => rwa [serve_of_answer planned]
  | granted call respond turn planned granted =>
      rw [serve_of_grants planned granted]
      exact step granted holds
  | refused call respond refusal planned refused => rwa [serve_of_refuses planned refused]

end Registry

end NetworkPlugin
