import NetworkPlugin.Proofs.Records
import NetworkPlugin.Proofs.Registry.Creation

/-!
# Failures of requests to networks in memory

Whatever is asked of networks in memory, directly or over HTTP, fails for a reason that lies with
the request: nothing internal goes wrong, and no event of a session is an error.  An address
that is found can always have the prefix length of its pool, because no pool has one that is
too great for its family.
-/

namespace NetworkPlugin

def Operation.failures : Operation → List FailureKind
  | allocateNetwork | freeNetwork => [.notImplemented]
  | createNetwork => [.badRequest, .forbidden]
  | createEndpoint => [.badRequest, .notFound, .forbidden, .noService]
  | deleteNetwork | deleteEndpoint | join | leave => [.notFound, .forbidden]
  | endpointInfo => [.notFound]
  | getCapabilities | discoverNew | discoverDelete | programExternalConnectivity
  | revokeExternalConnectivity => []

/-- A kind of failure that a caller can do something about, with the operations that alone have
two of these kinds. -/
structure Operation.MayFail (operation : Operation) (kind : FailureKind) : Prop where
  listed : kind ∈ [.badRequest, .notFound, .forbidden, .noService, .notImplemented]
  noService : kind = .noService → operation = .createEndpoint
  notImplemented : kind = .notImplemented →
    operation = .allocateNetwork ∨ operation = .freeNetwork

theorem Operation.mayFail_of_mem {operation : Operation} {kind : FailureKind}
    (expected : kind ∈ operation.failures) : operation.MayFail kind := by
  have table : ∀ operation ∈ all, ∀ kind ∈ operation.failures,
      kind ∈ [FailureKind.badRequest, .notFound, .forbidden, .noService, .notImplemented] ∧
        (kind = .noService → operation = .createEndpoint) ∧
        (kind = .notImplemented → operation = .allocateNetwork ∨ operation = .freeNetwork) := by
    decide
  obtain ⟨listed, noService, notImplemented⟩ := table operation operation.mem_all kind expected
  exact ⟨listed, noService, notImplemented⟩

theorem Operation.mayFail_badRequest (operation : Operation) : operation.MayFail .badRequest :=
  ⟨by decide, by simp, by simp⟩

def Operation.Expects (operation : Operation) (failure : Failure) : Prop :=
  ∃ kind, failure.kind = some kind ∧ operation.MayFail kind

theorem Operation.MayFail.level {operation : Operation} {kind : FailureKind}
    (expected : operation.MayFail kind) : Level.ofKind (some kind) = .warn := by
  have listed := expected.listed
  simp only [List.mem_cons, List.not_mem_nil, or_false] at listed
  rcases listed with rfl | rfl | rfl | rfl | rfl <;> rfl

/-! ## Direct requests -/

theorem kind_of_readPools {family : Family} {entries : List PoolEntry} {failure : Failure}
    (unreadable : readPools family entries = .error failure) :
    failure.kind = some .badRequest := by
  obtain ⟨fault, -, rfl⟩ := Except.mapError_eq_error.mp unreadable
  rfl

theorem FailsAtOnce.kind_mem {request : Request} {failure : Failure}
    (fails : FailsAtOnce request failure) :
    ∃ kind ∈ request.operation.failures, failure.kind = some kind := by
  cases fails with
  | pools unread | poolsV6 unread =>
      exact ⟨.badRequest, List.mem_cons_self, kind_of_readPools unread⟩
  | interface unread =>
      exact ⟨.badRequest, List.mem_cons_self, Registry.kind_of_readInterface unread⟩
  | allocateNetwork | freeNetwork => exact ⟨.notImplemented, List.mem_cons_self, rfl⟩

namespace Registry

variable {drawn : HardwareAddress} {registry : Registry}

theorem Refuses.kind_mem {request : Request} {call : Call} {respond : call.Reply → Response}
    {refusal : Refusal} (planned : request.plan = .ask call respond)
    (refused : Refuses drawn registry call refusal) :
    refusal.kind ∈ request.operation.failures := by
  cases asks_of_plan planned with
  | createNetwork read readV6 =>
      cases refused with
      | networkExists => simp [Request.operation, Operation.failures, Refusal.kind]
      | networkUnknown needed | endpointUnknown needed => cases needed
  | createEndpoint read =>
      cases refused with
      | networkUnknown | endpointExists =>
          simp [Request.operation, Operation.failures, Refusal.kind]
      | notAssigned stored absent failed =>
          rcases Network.newEndpoint_eq_error failed with denied | denied <;>
            rcases denied.kind with kind | kind <;>
              simp [Request.operation, Operation.failures, kind]
      | endpointUnknown needed => cases needed
  | deleteNetwork =>
      cases refused with
      | networkUnknown | networkInUse =>
          simp [Request.operation, Operation.failures, Refusal.kind]
      | endpointUnknown needed => cases needed
  | deleteEndpoint | endpointInfo | join | leave =>
      cases refused <;> simp [Request.operation, Operation.failures, Refusal.kind]

theorem kind_of_failure {input : Input} {failure : Failure}
    (failed : (serve registry input).answer = .error failure) :
    ∃ kind ∈ input.request.operation.failures, failure.kind = some kind := by
  cases served registry input with
  | known result planned =>
      rw [serve_of_answer planned] at failed
      cases failed
      exact (failsAtOnce_of_plan planned).kind_mem
  | granted call respond turn planned granted =>
      rw [serve_of_grants planned granted] at failed
      cases failed
  | refused call respond refusal planned refused =>
      rw [serve_of_refuses planned refused] at failed
      cases failed
      exact ⟨refusal.kind, refused.kind_mem planned, rfl⟩

theorem expects_of_failure {input : Input} {failure : Failure}
    (failed : (serve registry input).answer = .error failure) :
    input.request.operation.Expects failure := by
  obtain ⟨kind, expected, same⟩ := kind_of_failure failed
  exact ⟨kind, same, Operation.mayFail_of_mem expected⟩

/-! ## Events -/

theorem Grants.level_ne_error {call : Call} {turn : Turn Registry call.Reply}
    (granted : Grants drawn registry call turn) :
    ∀ event ∈ turn.events, event.level ≠ .error := by
  cases granted <;>
    simp [Turn.idle, Event.networkCreated, Event.networkDeleted, Event.endpointCreated,
      Event.endpointDeleted, Event.endpointJoined, Event.endpointLeft]

theorem level_event_ne_error {request : Request} {answer : Except Failure Response}
    (expected : ∀ failure, answer = .error failure → request.operation.Expects failure) :
    (request.event answer).level ≠ .error := by
  cases answer with
  | ok response =>
      cases shown : response.snapshot? <;>
        simp [Request.event, Event.ofOperation, OperationRecord.of, Except.map, shown]
  | error failure =>
      obtain ⟨kind, same, mayFail⟩ := expected failure rfl
      simp [Request.event, Event.ofOperation, OperationRecord.of, Except.map, same, mayFail.level]

theorem level_serve_ne_error (registry : Registry) (input : Input) :
    ∀ event ∈ (serve registry input).events, event.level ≠ .error := by
  have record : (input.request.event (serve registry input).answer).level ≠ .error :=
    level_event_ne_error fun failure failed => expects_of_failure failed
  cases served registry input with
  | known result planned =>
      rw [serve_of_answer planned] at record ⊢
      exact List.forall_mem_singleton.mpr record
  | granted call respond turn planned granted =>
      rw [serve_of_grants planned granted] at record ⊢
      rw [List.forall_mem_append]
      exact ⟨granted.level_ne_error, List.forall_mem_singleton.mpr record⟩
  | refused call respond refusal planned refused =>
      rw [serve_of_refuses planned refused] at record ⊢
      exact List.forall_mem_singleton.mpr record

/-! ## Requests of either kind -/

/-- What comes to networks in memory: a request to an operation, or one over HTTP with the
hardware address that is drawn in case it needs one. -/
inductive Arrival where
  | direct (input : Input)
  | posted (drawn : HardwareAddress) (request : Http.HttpRequest)

abbrev Reply := Except Failure Response ⊕ Http.HttpResponse

def Arrival.serve (registry : Registry) : Arrival → Turn Registry Reply
  | direct input => (Registry.serve registry input).map .inl
  | posted drawn request => (Http.serve (engine drawn) registry request).map .inr

/-- Only status 500 tells of a failure over HTTP, which is that of the one record. -/
inductive Outcome : Arrival → Reply → List Event → Prop
  | succeeds {input events} (response : Response) :
      Outcome (.direct input) (.inl (.ok response)) events
  | fails {input events failure} (expects : input.request.operation.Expects failure) :
      Outcome (.direct input) (.inl (.error failure)) events
  | replies {drawn request response events} (status : response.status ∈ [200, 404, 405, 413]) :
      Outcome (.posted drawn request) (.inr response) events
  | reports {drawn request response events} (operation : Operation) (arguments : String)
      (failure : Failure) (routed : Http.targetPath request.target = Http.route operation)
      (told : Http.Reports (.error failure) response)
      (recorded : RecordedOnce operation.name arguments (.error failure) events)
      (expects : operation.Expects failure) :
      Outcome (.posted drawn request) (.inr response) events

structure Sound (arrival : Arrival) (turn : Turn Registry Reply) : Prop where
  outcome : Outcome arrival turn.answer turn.events
  level : ∀ event ∈ turn.events, event.level ≠ .error

theorem sound_direct (registry : Registry) (input : Input) :
    Sound (.direct input) (Arrival.serve registry (.direct input)) where
  outcome := by
    cases answer : (serve registry input).answer with
    | ok response =>
        simp only [Arrival.serve, Turn.map, answer]
        exact .succeeds response
    | error failure =>
        simp only [Arrival.serve, Turn.map, answer]
        exact .fails (expects_of_failure answer)
  level := level_serve_ne_error registry input

section

variable {request : Http.HttpRequest} {operation : Operation}

theorem sound_decoded (drawn : HardwareAddress) (registry : Registry) {decoded : Request}
    (posted : request.method = "POST")
    (routed : Http.targetPath request.target = Http.route operation)
    (fits : Http.Fits operation request.body)
    (read : Http.decodeBody operation request.body = .ok decoded) :
    Sound (.posted drawn request) (Arrival.serve registry (.posted drawn request)) := by
  have same : Http.serve (engine drawn) registry request =
      (serve registry ⟨drawn, decoded⟩).map .of :=
    Http.serve_eq_map_dispatch _ _ posted routed fits read
  have recorded := recordedOnce_dispatch (discreet_engine drawn) registry decoded
  rw [Http.operation_of_decodeBody read] at recorded
  simp only [Arrival.serve, same]
  refine ⟨?_, level_serve_ne_error registry ⟨drawn, decoded⟩⟩
  cases answer : (serve registry ⟨drawn, decoded⟩).answer with
  | ok response =>
      simp only [Turn.map, answer]
      exact .replies (.head _)
  | error failure =>
      simp only [Turn.map, answer]
      have expects := expects_of_failure answer
      rw [Http.operation_of_decodeBody read] at expects
      change RecordedOnce _ _ (serve registry ⟨drawn, decoded⟩).answer _ at recorded
      rw [answer] at recorded
      exact .reports operation _ failure routed (Http.reports_of _) recorded expects

theorem sound_malformed (drawn : HardwareAddress) (registry : Registry) {fault : Json.Fault}
    (posted : request.method = "POST")
    (routed : Http.targetPath request.target = Http.route operation)
    (fits : Http.Fits operation request.body)
    (unread : Http.decodeBody operation request.body = .error fault) :
    Sound (.posted drawn request) (Arrival.serve registry (.posted drawn request)) := by
  have recorded := @recordedOnce_malformed _ (engine drawn) registry _ _ _ posted routed fits unread
  rw [Http.serve_of_unread _ _ posted routed fits unread] at recorded
  simp only [Arrival.serve, Http.serve_of_unread _ _ posted routed fits unread]
  constructor
  · exact .reports operation _ _ routed (Http.reports_of (.error _)) recorded
      ⟨.badRequest, rfl, operation.mayFail_badRequest⟩
  · have level : Level.ofKind (some .badRequest) ≠ .error := by decide
    exact List.forall_mem_singleton.mpr level

theorem sound_oversized (drawn : HardwareAddress) (registry : Registry)
    (posted : request.method = "POST")
    (routed : Http.targetPath request.target = Http.route operation)
    (oversized : ¬ Http.Fits operation request.body) :
    Sound (.posted drawn request) (Arrival.serve registry (.posted drawn request)) := by
  simp only [Arrival.serve, Http.serve_of_oversized _ _ posted routed oversized]
  exact ⟨.replies (.tail _ (.tail _ (.tail _ (.head _)))), by simp [Turn.idle, Turn.map]⟩

end

theorem sound_posted (drawn : HardwareAddress) (registry : Registry)
    (request : Http.HttpRequest) :
    Sound (.posted drawn request) (Arrival.serve registry (.posted drawn request)) := by
  cases found : Http.resource? request.target with
  | none =>
      simp only [Arrival.serve, Http.serve, found]
      exact ⟨.replies (.tail _ (.head _)), by simp [Turn.idle, Turn.map]⟩
  | some resource =>
      by_cases posted : request.method = "POST"
      · -- only the body can still keep a request from its operation
        cases resource with
        | activate =>
            simp only [Arrival.serve, Http.serve, found, posted, ne_eq, not_true_eq_false,
              if_false]
            exact ⟨.replies (.head _), by simp [Turn.idle, Turn.map]⟩
        | operation operation =>
            have routed := Http.route_of_resource? found
            by_cases fits : Http.Fits operation request.body
            · cases read : Http.decodeBody operation request.body with
              | ok decoded => exact sound_decoded drawn registry posted routed fits read
              | error fault => exact sound_malformed drawn registry posted routed fits read
            · exact sound_oversized drawn registry posted routed fits
      · simp only [Arrival.serve, Http.serve, found, posted, ne_eq, not_false_eq_true, if_true]
        exact ⟨.replies (.tail _ (.tail _ (.head _))), by simp [Turn.idle, Turn.map]⟩

/-- In a session of requests of either kind all failures are of the listed kinds, no event is an
error, and every address can have the prefix length of any pool there is. -/
theorem failures_are_of_listed_kinds (arrivals : List Arrival) :
    List.Forall₂ Sound arrivals (Session.turns Arrival.serve ∅ arrivals) ∧
      ∀ (network : String) (owner : Network),
        (Session.final Arrival.serve ∅ arrivals)[network]? = some owner →
        ∀ (family : Family) (address : Address family), ∀ pool ∈ owner.subnets family,
          (Subnet.ofParts? address pool.length).isSome = true := by
  constructor
  · refine Session.forall₂_turns ?_ ∅ arrivals
    rintro registry (input | ⟨drawn, request⟩)
    · exact sound_direct registry input
    · exact sound_posted drawn registry request
  · intro network owner stored family address pool member
    simp

/-- A network without a name with a pool of one address, from which an endpoint gets none, and a
request that is not implemented. -/
def scarce : List Arrival :=
  [.direct (.makeNetwork "" "10.0.0.7/32"),
    .posted default { target := "/NetworkDriver.CreateEndpoint" },
    .direct ⟨default, .freeNetwork ⟨""⟩⟩]

theorem scarce_is_no_error :
    List.Forall₂ Sound scarce (Session.turns Arrival.serve ∅ scarce) ∧
      ∃ owner pool, (Session.final Arrival.serve ∅ scarce)[""]? = some owner ∧
        owner.subnets .v4 = [pool] ∧
        ∀ address : Address .v4, (Subnet.ofParts? address pool.length).isSome = true := by
  obtain ⟨sound, fits⟩ := failures_are_of_listed_kinds scarce
  let pool : Subnet .v4 := ⟨.ofNat 0x0a000007, 32, by decide⟩
  let owner : Network := { ipv4 := [⟨"", ⟨.v4, pool⟩, none, ∅⟩], ipv6 := [] }
  have stored : (Session.final Arrival.serve ∅ scarce)[""]? = some owner := rfl
  refine ⟨sound, owner, pool, stored, rfl, fun address => ?_⟩
  exact fits "" owner stored .v4 address pool (.head _)

end Registry

end NetworkPlugin
