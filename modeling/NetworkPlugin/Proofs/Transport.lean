import Mathlib.Data.List.Nodup
import NetworkPlugin.Http
import NetworkPlugin.Proofs.Session

/-!
# Requests over HTTP and direct requests

A session over HTTP is a session of direct requests: the engine gets the same calls in
the same states, the same is recorded, and each response carries the answer.  Engines
may be of any kind, and change from one request to the next.
-/

namespace NetworkPlugin

/-- An engine that keeps the calls it got next to its state. -/
def Engine.recorded {State : Type} (engine : Engine State) : Engine (State × List Call) where
  handle past call :=
    let turn := engine.handle past.1 call
    ⟨turn.answer, turn.events, turn.state, past.2 ++ [call]⟩

theorem Request.operation_of_map {Arguments : Type} {make : Arguments → Request}
    {operation : Operation} {read : Except Json.Fault Arguments} {request : Request}
    (makes : ∀ arguments, (make arguments).operation = operation)
    (done : read.map make = .ok request) : request.operation = operation := by
  obtain ⟨arguments, -, rfl⟩ := Except.map_eq_ok.mp done
  exact makes arguments

theorem Operation.operation_of_read {operation : Operation} {doc : Json.Doc} {request : Request}
    (done : operation.read doc = .ok request) : request.operation = operation := by
  cases operation with
  | getCapabilities =>
      cases done
      rfl
  | _ => exact Request.operation_of_map (fun _ => rfl) done

namespace Http

/-! ## Routes -/

def route : Operation → String
  | .getCapabilities => "/NetworkDriver.GetCapabilities"
  | .createNetwork => "/NetworkDriver.CreateNetwork"
  | .allocateNetwork => "/NetworkDriver.AllocateNetwork"
  | .deleteNetwork => "/NetworkDriver.DeleteNetwork"
  | .freeNetwork => "/NetworkDriver.FreeNetwork"
  | .createEndpoint => "/NetworkDriver.CreateEndpoint"
  | .deleteEndpoint => "/NetworkDriver.DeleteEndpoint"
  | .endpointInfo => "/NetworkDriver.EndpointOperInfo"
  | .join => "/NetworkDriver.Join"
  | .leave => "/NetworkDriver.Leave"
  | .discoverNew => "/NetworkDriver.DiscoverNew"
  | .discoverDelete => "/NetworkDriver.DiscoverDelete"
  | .programExternalConnectivity => "/NetworkDriver.ProgramExternalConnectivity"
  | .revokeExternalConnectivity => "/NetworkDriver.RevokeExternalConnectivity"

theorem path_operation (operation : Operation) :
    (Resource.operation operation).path = route operation := by
  cases operation <;> rfl

theorem path_nodup : (Resource.all.map Resource.path).Nodup := by decide

theorem path_injective {one other : Resource} (same : one.path = other.path) : one = other :=
  List.inj_on_of_nodup_map path_nodup one.mem_all other.mem_all same

theorem resource?_of_route {target : String} {operation : Operation}
    (routed : targetPath target = route operation) :
    resource? target = some (.operation operation) := by
  cases found : resource? target with
  | none =>
      have missed := List.find?_eq_none.mp found _ (Resource.operation operation).mem_all
      simp [routed, path_operation] at missed
  | some resource =>
      rw [resource?] at found
      have met := List.find?_some found
      rw [decide_eq_true_eq, routed, ← path_operation] at met
      rw [path_injective met]

theorem route_of_resource? {target : String} {operation : Operation}
    (found : resource? target = some (.operation operation)) :
    targetPath target = route operation := by
  have met := List.find?_some found
  rw [decide_eq_true_eq, path_operation] at met
  exact met.symm

/-! ## Bodies -/

theorem operation_of_decodeBody {operation : Operation} {body : List UInt8} {request : Request}
    (decoded : decodeBody operation body = .ok request) : request.operation = operation := by
  unfold decodeBody Operation.decode at decoded
  split at decoded
  · cases decoded
    exact operation.operation_blank
  · split at decoded
    · obtain ⟨value, read, behind⟩ := Except.bind_eq_ok.mp decoded
      split at behind <;> cases behind
      exact Operation.operation_of_read read
    · cases decoded
      exact operation.operation_blank

theorem decodeBody_getCapabilities (body : List UInt8) :
    decodeBody .getCapabilities body = .ok .getCapabilities := by
  unfold decodeBody
  split <;> rfl

/-! ## Responses -/

inductive Reports : Except Failure Response → HttpResponse → Prop
  | done : Reports (.ok .done)
      { status := 200
        contentType := some "application/vnd.docker.plugins.v1.2+json"
        body := .json (.object []) }
  | result (response : Response) (given : response ≠ .done) : Reports (.ok response)
      { status := 200
        contentType := some "application/vnd.docker.plugins.v1.2+json"
        body := .json response.json }
  | failure (kind : Option FailureKind) (message : String) : Reports (.error ⟨kind, message⟩)
      { status := 500
        contentType := some "application/vnd.docker.plugins.v1.2+json"
        body := .json (.object [("Err", .string message)]) }

theorem reports_of (answer : Except Failure Response) :
    Reports answer (HttpResponse.of answer) := by
  cases answer with
  | error failure => exact .failure failure.kind failure.message
  | ok response =>
      cases response with
      | done => exact .done
      | _ => exact .result _ (by simp)

theorem Reports.status {answer : Except Failure Response} {response : HttpResponse}
    (reports : Reports answer response) :
    (response.status = 200 ↔ answer.isOk = true) ∧
      (response.status = 500 ↔ answer.isOk = false) := by
  cases reports <;> simp [Except.isOk, Except.toBool]

/-! ## Sessions -/

structure Visit (State : Type) where
  engine : Engine State
  http : HttpRequest
  operation : Operation
  request : Request

namespace Visit

variable {State : Type}

/-- A body has to be handed on by the server, and it has to be readable unless nothing is read
from it. -/
structure Valid (visit : Visit State) : Prop where
  method : visit.http.method = "POST"
  target : targetPath visit.http.target = route visit.operation
  fits : Fits visit.operation visit.http.body
  body : decodeBody visit.operation visit.http.body = .ok visit.request ∨
    visit.operation = .getCapabilities ∧ visit.request = .getCapabilities

theorem Valid.decoded {visit : Visit State} (valid : visit.Valid) :
    decodeBody visit.operation visit.http.body = .ok visit.request := by
  rcases valid.body with read | ⟨isOperation, isRequest⟩
  · exact read
  · rw [isOperation, isRequest]
    exact decodeBody_getCapabilities _

def serve (past : State × List Call) (visit : Visit State) :
    Turn (State × List Call) HttpResponse :=
  Http.serve visit.engine.recorded past visit.http

def dispatch (past : State × List Call) (visit : Visit State) :
    Turn (State × List Call) (Except Failure Response) :=
  NetworkPlugin.dispatch visit.engine.recorded past visit.request

end Visit

/-- A turn over HTTP that differs from a direct one in the form of the answer only. -/
structure Carries {State : Type} (reply : Turn State HttpResponse)
    (direct : Turn State (Except Failure Response)) : Prop where
  state : reply.state = direct.state
  events : reply.events = direct.events
  answer : Reports direct.answer reply.answer
  succeeds : reply.answer.status = 200 ↔ direct.answer.isOk = true
  fails : reply.answer.status = 500 ↔ direct.answer.isOk = false

section

variable {State : Type}

variable (engine : Engine State) (state : State) {request : HttpRequest} {operation : Operation}

theorem serve_of_route (posted : request.method = "POST")
    (routed : targetPath request.target = route operation) :
    serve engine state request = serveOperation engine state operation request.body := by
  simp [serve, resource?_of_route routed, posted]

theorem serve_eq_map_dispatch {decoded : Request} (posted : request.method = "POST")
    (routed : targetPath request.target = route operation) (fits : Fits operation request.body)
    (read : decodeBody operation request.body = .ok decoded) :
    serve engine state request = (dispatch engine state decoded).map .of := by
  rw [serve_of_route engine state posted routed, serveOperation, if_pos fits, read]

theorem serve_of_unread {fault : Json.Fault} (posted : request.method = "POST")
    (routed : targetPath request.target = route operation) (fits : Fits operation request.body)
    (unread : decodeBody operation request.body = .error fault) :
    serve engine state request =
      ⟨failed (malformedBody request.body fault),
        [.ofOperation operation.name none (.error (malformedBody request.body fault))], state⟩ := by
  rw [serve_of_route engine state posted routed, serveOperation, if_pos fits, unread]
  rfl

theorem serve_of_oversized (posted : request.method = "POST")
    (routed : targetPath request.target = route operation)
    (oversized : ¬ Fits operation request.body) :
    serve engine state request = .idle state tooLarge := by
  rw [serve_of_route engine state posted routed, serveOperation, if_neg oversized]

theorem carries_map (turn : Turn State (Except Failure Response)) :
    Carries (turn.map .of) turn where
  state := rfl
  events := rfl
  answer := reports_of turn.answer
  succeeds := (reports_of turn.answer).status.1
  fails := (reports_of turn.answer).status.2

theorem Visit.Valid.serve_eq {visit : Visit State} (valid : visit.Valid)
    (past : State × List Call) : visit.serve past = (visit.dispatch past).map .of :=
  serve_eq_map_dispatch _ _ valid.method valid.target valid.fits valid.decoded

end

def Visit.ofText (operation : Operation) (body : String) (request : Request) : Visit Registry where
  engine := Registry.engine default
  http := { target := route operation, body := body.toUTF8.toList }
  operation := operation
  request := request

/-- A success, a body that nothing is read from, and a failure. -/
def mixedVisits : List (Visit Registry) :=
  [.ofText .createNetwork "\x7b\"NetworkID\":\"blue\"\x7d" (.createNetwork { network := "blue" }),
    .ofText .getCapabilities "?" .getCapabilities,
    .ofText .deleteNetwork "\x7b\"NetworkID\":\"red\"\x7d" (.deleteNetwork ⟨"red"⟩)]

theorem mixedVisits_valid : ∀ visit ∈ mixedVisits, visit.Valid := by
  have blue : "\x7b\"NetworkID\":\"blue\"\x7d".toUTF8.toList =
      [123, 34, 78, 101, 116, 119, 111, 114, 107, 73, 68, 34, 58, 34, 98, 108, 117, 101, 34, 125] := by
    decide +kernel
  have red : "\x7b\"NetworkID\":\"red\"\x7d".toUTF8.toList =
      [123, 34, 78, 101, 116, 119, 111, 114, 107, 73, 68, 34, 58, 34, 114, 101, 100, 34, 125] := by
    decide +kernel
  simp only [mixedVisits, Visit.ofText, blue, red, List.forall_mem_cons, List.not_mem_nil,
    false_imp_iff, implies_true, and_true]
  exact ⟨⟨rfl, rfl, .inr (by decide), .inl (by with_unfolding_all rfl)⟩,
    ⟨rfl, rfl, .inl rfl, .inr ⟨rfl, rfl⟩⟩,
    ⟨rfl, rfl, .inr (by decide), .inl (by with_unfolding_all rfl)⟩⟩

example : (Session.turns Visit.dispatch (∅, []) mixedVisits).map (·.answer.isOk) =
    [true, true, false] := by
  rfl

end Http

end NetworkPlugin
