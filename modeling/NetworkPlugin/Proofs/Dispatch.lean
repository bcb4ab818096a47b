import NetworkPlugin.Proofs.Pool
import NetworkPlugin.Proofs.Transport

/-!
# What requests ask of an engine

A request is answered without the engine, or makes exactly one call, which carries what
was sent.  The answer to a call is passed on, a failure as it is, so that nothing is
known of the engine here.  Which calls an engine gets in a session is settled by the
requests alone, whatever it answers.
-/

namespace NetworkPlugin

variable {State : Type}

structure Passes (engine : Engine State) (past : State × List Call) (call : Call)
    (respond : call.Reply → Response)
    (turn : Turn (State × List Call) (Except Failure Response)) : Prop where
  calls : turn.state.2 = past.2 ++ [call]
  state : turn.state.1 = (engine.handle past.1 call).state
  reply : ∀ reply, (engine.handle past.1 call).answer = .ok reply →
    turn.answer = .ok (respond reply)
  failure : ∀ failure, (engine.handle past.1 call).answer = .error failure →
    turn.answer = .error failure

structure Settles (past : State × List Call) (answer : Except Failure Response)
    (turn : Turn (State × List Call) (Except Failure Response)) : Prop where
  answer : turn.answer = answer
  state : turn.state = past

/-- What becomes of each request; the IPv4 pools are read before the others. -/
inductive Adapts (engine : Engine State) (past : State × List Call)
    (turn : Turn (State × List Call) (Except Failure Response)) : Request → Prop
  | createNetwork {arguments ipv4 ipv6}
      (read : List.Forall₂ (fun entry pool => Pool.ofEntry entry = .ok pool)
        arguments.ipv4 ipv4)
      (readV6 : List.Forall₂ (fun entry pool => Pool.ofEntry entry = .ok pool)
        arguments.ipv6 ipv6)
      (passes : Passes engine past
        (.createNetwork arguments.network arguments.options ipv4 ipv6) (fun _ => .done) turn) :
      Adapts engine past turn (.createNetwork arguments)
  | malformedPools {arguments fault} (unread : Pool.ofEntries arguments.ipv4 = .error fault)
      (settles : Settles past
        (.error ⟨some .badRequest, "invalid IPv4 information: " ++ fault.message⟩) turn) :
      Adapts engine past turn (.createNetwork arguments)
  | malformedPoolsV6 {arguments ipv4 fault} (read : Pool.ofEntries arguments.ipv4 = .ok ipv4)
      (unread : Pool.ofEntries arguments.ipv6 = .error fault)
      (settles : Settles past
        (.error ⟨some .badRequest, "invalid IPv6 information: " ++ fault.message⟩) turn) :
      Adapts engine past turn (.createNetwork arguments)
  | createEndpoint {arguments interface}
      (read : Interface.ofText? arguments.interface = .ok interface)
      (passes : Passes engine past
        (.createEndpoint arguments.network arguments.endpoint interface arguments.options)
        (fun assigned => .endpoint ⟨some assigned.toText⟩) turn) :
      Adapts engine past turn (.createEndpoint arguments)
  | malformedInterface {arguments fault}
      (unread : Interface.ofText? arguments.interface = .error fault)
      (settles : Settles past
        (.error ⟨some .badRequest, "invalid endpoint info: " ++ fault.message⟩) turn) :
      Adapts engine past turn (.createEndpoint arguments)
  | deleteNetwork {arguments}
      (passes : Passes engine past (.deleteNetwork arguments.network) (fun _ => .done) turn) :
      Adapts engine past turn (.deleteNetwork arguments)
  | deleteEndpoint {arguments}
      (passes : Passes engine past (.deleteEndpoint arguments.network arguments.endpoint)
        (fun _ => .done) turn) :
      Adapts engine past turn (.deleteEndpoint arguments)
  | endpointInfo {arguments}
      (passes : Passes engine past (.endpointInfo arguments.network arguments.endpoint)
        (fun value => .report ⟨value⟩) turn) :
      Adapts engine past turn (.endpointInfo arguments)
  | join {arguments}
      (passes : Passes engine past
        (.join arguments.network arguments.endpoint arguments.sandbox arguments.options)
        (fun attachment => .attachment attachment.toText) turn) :
      Adapts engine past turn (.join arguments)
  | leave {arguments}
      (passes : Passes engine past (.leave arguments.network arguments.endpoint)
        (fun _ => .done) turn) :
      Adapts engine past turn (.leave arguments)
  | getCapabilities (settles : Settles past (.ok (.capabilities ⟨"local", "local"⟩)) turn) :
      Adapts engine past turn .getCapabilities
  | allocateNetwork {arguments}
      (settles : Settles past (.error ⟨some .notImplemented, "not implemented"⟩) turn) :
      Adapts engine past turn (.allocateNetwork arguments)
  | freeNetwork {arguments}
      (settles : Settles past (.error ⟨some .notImplemented, "not implemented"⟩) turn) :
      Adapts engine past turn (.freeNetwork arguments)
  | discoverNew {arguments} (settles : Settles past (.ok .done) turn) :
      Adapts engine past turn (.discoverNew arguments)
  | discoverDelete {arguments} (settles : Settles past (.ok .done) turn) :
      Adapts engine past turn (.discoverDelete arguments)
  | programExternalConnectivity {arguments} (settles : Settles past (.ok .done) turn) :
      Adapts engine past turn (.programExternalConnectivity arguments)
  | revokeExternalConnectivity {arguments} (settles : Settles past (.ok .done) turn) :
      Adapts engine past turn (.revokeExternalConnectivity arguments)

def Request.Concerns : Request → Prop
  | createNetwork arguments =>
      (Pool.ofEntries arguments.ipv4).isOk = true ∧ (Pool.ofEntries arguments.ipv6).isOk = true
  | createEndpoint arguments => (Interface.ofText? arguments.interface).isOk = true
  | deleteNetwork _ | deleteEndpoint _ | endpointInfo _ | join _ | leave _ => True
  | _ => False

/-! ## One call or none -/

section

variable (engine : Engine State) (past : State × List Call) {request : Request}

theorem passes_of_asks {call : Call} {respond : call.Reply → Response}
    (asks : Asks request call respond) :
    Passes engine past call respond (dispatch engine.recorded past request) := by
  rw [dispatch_of_ask _ _ asks.plan_eq]
  refine ⟨rfl, rfl, ?_, ?_⟩
  · intro reply replied
    simp [Engine.recorded, Turn.map, Turn.log, replied, Except.map]
  · intro failure failed
    simp [Engine.recorded, Turn.map, Turn.log, failed, Except.map]

theorem settles_of_answer {answer : Except Failure Response}
    (planned : request.plan = .answer answer) :
    Settles past answer (dispatch engine.recorded past request) := by
  rw [dispatch_of_answer _ _ planned]
  exact ⟨rfl, rfl⟩

end

theorem Passes.state_ne {engine : Engine State} {past : State × List Call} {call : Call}
    {respond : call.Reply → Response}
    {turn : Turn (State × List Call) (Except Failure Response)}
    (passes : Passes engine past call respond turn) : turn.state ≠ past := by
  intro same
  have calls := passes.calls
  rw [same] at calls
  simp at calls

/-! ## Requests with something to read -/

theorem readPools_eq_error (family : Family) {entries : List PoolEntry} {fault : PoolListFault}
    (unread : Pool.ofEntries entries = .error fault) :
    readPools family entries =
      .error
        ⟨some .badRequest, "invalid " ++ family.name ++ " information: " ++ fault.message⟩ := by
  rw [readPools, unread]
  cases family <;> rfl

theorem adapts_createNetwork (engine : Engine State) (past : State × List Call)
    (arguments : NetworkArguments Json) :
    Adapts engine past (dispatch engine.recorded past (.createNetwork arguments))
      (.createNetwork arguments) := by
  cases read : Pool.ofEntries arguments.ipv4 with
  | error fault =>
      refine .malformedPools read (settles_of_answer engine past ?_)
      simp only [Request.plan, readPools_eq_error .v4 read]
      rfl
  | ok ipv4 =>
      cases readV6 : Pool.ofEntries arguments.ipv6 with
      | error fault =>
          refine .malformedPoolsV6 read readV6 (settles_of_answer engine past ?_)
          simp only [Request.plan, readPools_eq_ok.mpr read, readPools_eq_error .v6 readV6]
          rfl
      | ok ipv6 =>
          exact .createNetwork (Pool.ofEntriesFrom_eq_ok.mp read)
            (Pool.ofEntriesFrom_eq_ok.mp readV6)
            (passes_of_asks engine past
              (.createNetwork (readPools_eq_ok.mpr read) (readPools_eq_ok.mpr readV6)))

theorem adapts_createEndpoint (engine : Engine State) (past : State × List Call)
    (arguments : EndpointArguments) :
    Adapts engine past (dispatch engine.recorded past (.createEndpoint arguments))
      (.createEndpoint arguments) := by
  cases read : Interface.ofText? arguments.interface with
  | error fault =>
      refine .malformedInterface read (settles_of_answer engine past ?_)
      simp only [Request.plan, readInterface, read, Except.mapError]
      rfl
  | ok interface =>
      have readable : readInterface arguments = .ok interface := by
        rw [readInterface, read, Except.mapError_ok]
      exact .createEndpoint read (passes_of_asks engine past (.createEndpoint readable))

theorem adapts_dispatch (engine : Engine State) (past : State × List Call) (request : Request) :
    Adapts engine past (dispatch engine.recorded past request) request := by
  cases request with
  | createNetwork arguments => exact adapts_createNetwork engine past arguments
  | createEndpoint arguments => exact adapts_createEndpoint engine past arguments
  | deleteNetwork | deleteEndpoint | endpointInfo | join | leave =>
      constructor
      exact passes_of_asks engine past (by constructor)
  | _ =>
      constructor
      exact settles_of_answer engine past rfl

/-! ## All requests -/

theorem Adapts.concerns_or_not {engine : Engine State} {past : State × List Call}
    {turn : Turn (State × List Call) (Except Failure Response)} {request : Request}
    (adapts : Adapts engine past turn request) :
    request.Concerns ∧ (∃ call, turn.state.2 = past.2 ++ [call]) ∧ turn.state ≠ past ∨
      ¬ request.Concerns ∧ turn.state = past := by
  have asked {call : Call} {respond : call.Reply → Response} (concerns : request.Concerns)
      (passes : Passes engine past call respond turn) :
      request.Concerns ∧ (∃ call, turn.state.2 = past.2 ++ [call]) ∧ turn.state ≠ past :=
    ⟨concerns, ⟨_, passes.calls⟩, passes.state_ne⟩
  cases adapts with
  | createNetwork read readV6 passes =>
      have parsed : Pool.ofEntries _ = .ok _ := Pool.ofEntriesFrom_eq_ok.mpr read
      have parsedV6 : Pool.ofEntries _ = .ok _ := Pool.ofEntriesFrom_eq_ok.mpr readV6
      refine .inl (asked ?_ passes)
      simp [Request.Concerns, parsed, parsedV6, Except.isOk, Except.toBool]
  | createEndpoint read passes =>
      refine .inl (asked ?_ passes)
      simp [Request.Concerns, read, Except.isOk, Except.toBool]
  | malformedPools unread settles =>
      refine .inr ⟨?_, settles.state⟩
      simp [Request.Concerns, unread, Except.isOk, Except.toBool]
  | malformedPoolsV6 read unread settles =>
      refine .inr ⟨?_, settles.state⟩
      simp [Request.Concerns, unread, Except.isOk, Except.toBool]
  | malformedInterface unread settles =>
      refine .inr ⟨?_, settles.state⟩
      simp [Request.Concerns, unread, Except.isOk, Except.toBool]
  | deleteNetwork | deleteEndpoint | endpointInfo | join | leave =>
      next passes => exact .inl (asked trivial passes)
  | _ => next settles => exact .inr ⟨not_false, settles.state⟩

def Request.call? (request : Request) : Option Call :=
  match request.plan with
  | .ask call _ => some call
  | .answer _ => none

theorem calls_dispatch (engine : Engine State) (past : State × List Call) (request : Request) :
    (dispatch engine.recorded past request).state.2 = past.2 ++ request.call?.toList := by
  unfold Request.call?
  cases planned : request.plan with
  | answer result => simp [dispatch_of_answer _ _ planned]
  | ask call respond =>
      rw [dispatch_of_ask _ _ planned]
      rfl

theorem calls_final (engine : Engine State) (past : State × List Call)
    (requests : List Request) :
    (Session.final (dispatch engine.recorded) past requests).2 =
      past.2 ++ requests.filterMap Request.call? := by
  induction requests generalizing past with
  | nil => simp [Session.final]
  | cons request requests ih =>
      have step := ih (dispatch engine.recorded past request).state
      rw [calls_dispatch] at step
      cases called : request.call? <;> simpa [Session.final, called] using step

end NetworkPlugin
