import NetworkPlugin.Proofs.Transport
import NetworkPlugin.Script

/-!
# Records of operations

Every operation leaves exactly one record behind, which is the last event of its turn
and says the same as the answer, at the level that goes with the kind of a failure.
Over HTTP this includes requests whose bodies cannot be read, as long as the server hands these
bodies on.
-/

namespace NetworkPlugin

def Event.HasField (event : Event) (name : String) : Prop := ∃ text, (name, text) ∈ event.fields

inductive Ranks : Option FailureKind → Level → Prop
  | harmless {kind} (listed : kind ∈ [some .maskable, some .retry]) : Ranks kind .info
  | caller {kind} (listed : kind ∈ [some .badRequest, some .notFound, some .forbidden,
      some .noService, some .notImplemented]) : Ranks kind .warn
  | engine {kind} (listed : kind ∈ [some .timeout, some .internal, none]) : Ranks kind .error

/-- The record of an operation with the arguments and the answer that it was given. -/
inductive Records (name arguments : String) : Except Failure Response → Event → Prop
  | plain {response} (silent : response.snapshot? = none) :
      Records name arguments (.ok response)
        ⟨.info, name ++ "(" ++ arguments ++ ")", [("op", name)]⟩
  | withResult {response result} (shown : response.snapshot? = some result) :
      Records name arguments (.ok response)
        ⟨.info, name ++ "(" ++ arguments ++ "): " ++ result.render, [("op", name)]⟩
  | failure {failure level} (ranks : Ranks failure.kind level) :
      Records name arguments (.error failure)
        ⟨level, "[" ++ failure.tag ++ "] " ++ name ++ "(" ++ arguments ++ "): " ++ failure.message,
          [("op", name), ("error", failure.message)]⟩

/-- The only event that names an operation is the last one, and it is the record; a
failure leaves nothing else behind. -/
structure RecordedOnce (name arguments : String) (answer : Except Failure Response)
    (events : List Event) : Prop where
  last : ∃ before record, events = before ++ [record] ∧
    (∀ event ∈ before, ¬ event.HasField "op") ∧ Records name arguments answer record
  alone : answer.isOk = false → events.length = 1

/-! ## One record -/

theorem ranks_ofKind (kind : Option FailureKind) : Ranks kind (Level.ofKind kind) := by
  cases kind with
  | none => exact .engine (by decide)
  | some kind =>
      cases kind with
      | maskable | retry => exact .harmless (by decide)
      | badRequest | notFound | forbidden | noService | notImplemented =>
          exact .caller (by decide)
      | timeout | internal => exact .engine (by decide)

theorem invocation_append (name arguments rest : String) :
    name ++ "(" ++ arguments ++ ")" ++ ": " ++ rest =
      name ++ "(" ++ arguments ++ "): " ++ rest := by
  simp only [String.append_assoc]
  rfl

def shownArguments (snapshot : Option Snapshot) : String :=
  (snapshot.map Snapshot.render).getD ""

theorem records_ofOperation (name : String) (snapshot : Option Snapshot)
    (answer : Except Failure Response) :
    Records name (shownArguments snapshot) answer
      (.ofOperation name snapshot (answer.map Response.snapshot?)) := by
  cases answer with
  | error failure =>
      have record : Records name (shownArguments snapshot) (.error failure) _ :=
        .failure (ranks_ofKind failure.kind)
      simpa [Event.ofOperation, OperationRecord.of, Except.map, invocation, shownArguments,
        String.append_assoc] using record
  | ok response =>
      cases shown : response.snapshot? with
      | none =>
          have record : Records name (shownArguments snapshot) (.ok response) _ := .plain shown
          simpa [Event.ofOperation, OperationRecord.of, Except.map, invocation, shownArguments,
            shown] using record
      | some result =>
          have record : Records name (shownArguments snapshot) (.ok response) _ := .withResult shown
          rw [← invocation_append] at record
          simpa [Event.ofOperation, OperationRecord.of, Except.map, invocation, shownArguments,
            shown] using record

/-! ## Engines that leave records to others -/

/-- An engine whose own events name no operation, and which says nothing when it fails. -/
def Engine.Discreet {State : Type} (engine : Engine State) : Prop :=
  ∀ state call,
    (∀ event ∈ (engine.handle state call).events, ¬ event.HasField "op") ∧
    ((engine.handle state call).answer.isOk = false → (engine.handle state call).events = [])

theorem Registry.Grants.unnamed {drawn : HardwareAddress} {registry : Registry} {call : Call}
    {turn : Turn Registry call.Reply} (granted : Grants drawn registry call turn) :
    ∀ event ∈ turn.events, ¬ event.HasField "op" := by
  cases granted <;>
    simp [Event.HasField, Turn.idle, Event.networkCreated, Event.networkDeleted,
      Event.endpointCreated, Event.endpointDeleted, Event.endpointJoined, Event.endpointLeft,
      Event.optionsField, Event.countField, Event.textField]

theorem Registry.discreet_engine (drawn : HardwareAddress) : (engine drawn).Discreet := by
  intro registry call
  obtain ⟨turn, granted⟩ | ⟨refusal, refused⟩ := grants_or_refuses drawn registry call
  · simp only [engine, granted.step_eq, Turn.map]
    exact ⟨granted.unnamed, fun failed => by cases failed⟩
  · simp [engine, refused.step_eq, Turn.idle]

theorem Script.discreet_engine (script : Script) : script.engine.Discreet := by
  intro calls call
  simp [engine, Turn.idle]

inductive Engine.Provided : {State : Type} → Engine State → Prop
  | memory (drawn : HardwareAddress) : Provided (Registry.engine drawn)
  | scripted (script : Script) : Provided script.engine

theorem Engine.Provided.discreet {State : Type} {engine : Engine State}
    (provided : engine.Provided) : engine.Discreet := by
  cases provided with
  | memory drawn => exact Registry.discreet_engine drawn
  | scripted script => exact script.discreet_engine

/-! ## Operations -/

section

variable {State : Type} {engine : Engine State}

theorem recordedOnce_dispatch (discreet : engine.Discreet) (state : State) (request : Request) :
    let turn := dispatch engine state request
    RecordedOnce request.operation.name (shownArguments request.snapshot?) turn.answer
      turn.events := by
  have record (answer : Except Failure Response) :=
    records_ofOperation request.operation.name request.snapshot? answer
  cases planned : request.plan with
  | answer result =>
      rw [dispatch_of_answer _ _ planned]
      exact ⟨⟨[], _, rfl, by simp, record result⟩, fun _ => rfl⟩
  | ask call respond =>
      rw [dispatch_of_ask _ _ planned]
      obtain ⟨unnamed, silent⟩ := discreet state call
      refine ⟨⟨_, _, rfl, unnamed, record _⟩, fun failed => ?_⟩
      have refused : (engine.handle state call).answer.isOk = false := by
        cases answer : (engine.handle state call).answer with
        | error failure => rfl
        | ok reply =>
            simp [Turn.log, Turn.map, answer, Except.map, Except.isOk, Except.toBool] at failed
      simp [Turn.log, Turn.map, silent refused]

theorem recordedOnce_malformed (state : State) {request : Http.HttpRequest}
    {operation : Operation} {fault : Json.Fault} (posted : request.method = "POST")
    (routed : Http.targetPath request.target = Http.route operation)
    (fits : Http.Fits operation request.body)
    (unread : Http.decodeBody operation request.body = .error fault) :
    RecordedOnce operation.name "" (.error (Http.malformedBody request.body fault))
      (Http.serve engine state request).events := by
  rw [Http.serve_of_unread engine state posted routed fits unread]
  exact ⟨⟨[], _, rfl, by simp, records_ofOperation operation.name none (.error _)⟩, fun _ => rfl⟩

end

def Event.operation? (event : Event) : Option String := event.fields.lookup "op"

theorem Event.operation?_eq_none {event : Event} (unnamed : ¬ event.HasField "op") :
    event.operation? = none := by
  rw [operation?, List.lookup_eq_none_iff]
  rintro ⟨name, text⟩ member
  simp only [bne_iff_ne, ne_eq]
  rintro rfl
  exact unnamed ⟨text, member⟩

theorem RecordedOnce.operations {name arguments : String} {answer : Except Failure Response}
    {events : List Event} (recorded : RecordedOnce name arguments answer events) :
    events.filterMap Event.operation? = [name] := by
  obtain ⟨before, record, rfl, unnamed, records⟩ := recorded.last
  have nothing : before.filterMap Event.operation? = [] := by
    rw [List.filterMap_eq_nil_iff]
    exact fun event member => Event.operation?_eq_none (unnamed event member)
  have named : record.operation? = some name := by
    cases records <;> rfl
  simp [nothing, named]

/-- The log of a session names its operations, each once and in their order. -/
theorem operations_of_turns {State : Type} {engine : Engine State} (discreet : engine.Discreet)
    (state : State) (requests : List Request) :
    ((Session.turns (dispatch engine) state requests).flatMap (·.events)).filterMap
        Event.operation? = requests.map (·.operation.name) := by
  induction requests generalizing state with
  | nil => rfl
  | cons request requests ih =>
      have first := (recordedOnce_dispatch discreet state request).operations
      simp [Session.turns, List.filterMap_append, first, ih]

end NetworkPlugin
