import NetworkPlugin.Proofs.Records
import NetworkPlugin.Proofs.Registry.Atomicity
import NetworkPlugin.Proofs.Wire.RoundTrip

/-!
# Requests that are turned away

A request over HTTP that does not ask for an operation, or whose body is too long or cannot be
read, never reaches the engine: no call is made, and all that comes of it is the answer, with a
record if it is an operation that could not be read.  Any session can do without such requests.
-/

namespace NetworkPlugin

open Json

def Operation.argumentType? : Operation → Option WireType
  | getCapabilities => none
  | createNetwork => some .createNetwork
  | allocateNetwork => some .allocateNetwork
  | deleteNetwork => some .deleteNetwork
  | freeNetwork => some .freeNetwork
  | createEndpoint => some .createEndpoint
  | deleteEndpoint => some .deleteEndpoint
  | endpointInfo => some .endpointInfo
  | join => some .join
  | leave => some .leave
  | discoverNew | discoverDelete => some .discovery
  | programExternalConnectivity => some .programExternalConnectivity
  | revokeExternalConnectivity => some .revokeExternalConnectivity

theorem Codec.decodeWith_map {Value Other : Type} (read : Doc → Except Fault Value)
    (f : Value → Other) (text : List UInt8) :
    decodeWith (fun doc => (read doc).map f) text = (decodeWith read text).map f := by
  unfold decodeWith
  dsimp only
  cases read (Document.ofBytes text).root with
  | error fault => rfl
  | ok value => cases (Document.ofBytes text).behind <;> rfl

theorem Operation.decode_eq_error {operation : Operation} {type : WireType}
    (takes : operation.argumentType? = some type) {text : List UInt8} {fault : Fault}
    (unread : type.schema.codec.decode text = .error fault) :
    operation.decode text = .error fault := by
  cases operation with
  | getCapabilities => cases takes
  | _ =>
      cases takes
      refine (Codec.decodeWith_map _ _ text).trans ?_
      exact congrArg (Except.map _) unread

namespace Http

/-! ## Requests -/

def paths : List String := "/Plugin.Activate" :: Operation.all.map route

/-- Space, tabulator, line feed, form feed and carriage return. -/
def asciiWhitespace : List UInt8 := [0x20, 0x09, 0x0a, 0x0c, 0x0d]

structure Malformed (request : HttpRequest) (operation : Operation) (fault : Fault) : Prop where
  posted : request.method = "POST"
  routed : targetPath request.target = route operation
  nonblank : ∃ byte ∈ request.body, byte ∉ asciiWhitespace
  unread : ∃ type, operation.argumentType? = some type ∧
    type.schema.codec.decode request.body = .error fault

/-- A request for an operation whose body is not handed on, readable or not. -/
structure Oversized (request : HttpRequest) (operation : Operation) : Prop where
  posted : request.method = "POST"
  routed : targetPath request.target = route operation
  long : ¬ Fits operation request.body

inductive Rejected (request : HttpRequest) : Prop
  | notPosted (method : request.method ≠ "POST")
  | unknownPath (unknown : targetPath request.target ∉ paths)
  | malformed (operation : Operation) (fault : Fault) (here : Malformed request operation fault)
  | oversized (operation : Operation) (here : Oversized request operation)

/-- How each request that is turned away is answered, and what is recorded of it. -/
inductive Rejects (request : HttpRequest) : HttpResponse → List Event → Prop
  | notFound (unknown : targetPath request.target ∉ paths) : Rejects request { status := 404 } []
  | methodNotAllowed (known : targetPath request.target ∈ paths)
      (method : request.method ≠ "POST") :
      Rejects request { status := 405, allow := some "POST" } []
  | oversized {operation} (here : Oversized request operation) :
      Rejects request
        { status := 413
          contentType := some "text/plain; charset=utf-8"
          body := .text "Failed to buffer the request body: length limit exceeded" } []
  | malformed {operation fault message} (here : Malformed request operation fault)
      (fits : Fits operation request.body)
      (told : message = "malformed request: " ++ fault.message request.body) :
      Rejects request
        { status := 500
          contentType := some "application/vnd.docker.plugins.v1.2+json"
          body := .json (.object [("Err", .string message)]) }
        [⟨.warn, "[BadRequestError] " ++ operation.name ++ "(): " ++ message,
          [("op", operation.name), ("error", message)]⟩]

theorem mem_paths {target : String} :
    targetPath target ∈ paths ↔ (resource? target).isSome = true := by
  simp only [resource?, List.find?_isSome, decide_eq_true_eq, paths, List.mem_cons, List.mem_map]
  constructor
  · rintro (activates | ⟨operation, listed, routed⟩)
    · exact ⟨.activate, Resource.mem_all _, activates.symm⟩
    · exact ⟨.operation operation, Resource.mem_all _, (path_operation operation).trans routed⟩
  · rintro ⟨_ | operation, -, same⟩
    · exact .inl same.symm
    · exact .inr ⟨operation, operation.mem_all, (path_operation operation).symm.trans same⟩

theorem isAsciiBlank_iff (byte : UInt8) : isAsciiBlank byte = true ↔ byte ∈ asciiWhitespace := by
  have all : ∀ n : Fin 256, isAsciiBlank (UInt8.ofFin n) = true ↔
      UInt8.ofFin n ∈ asciiWhitespace := by decide +kernel
  exact all byte.toFin

theorem Malformed.decodeBody_eq {request : HttpRequest} {operation : Operation} {fault : Fault}
    (malformed : Malformed request operation fault) :
    decodeBody operation request.body = .error fault := by
  obtain ⟨byte, member, other⟩ := malformed.nonblank
  obtain ⟨type, takes, unread⟩ := malformed.unread
  have nonblank : ¬ request.body.all isAsciiBlank = true := by
    intro blank
    exact other ((isAsciiBlank_iff byte).mp (List.all_eq_true.mp blank byte member))
  rw [decodeBody, if_neg nonblank]
  exact Operation.decode_eq_error takes unread

/-! ## Answers -/

theorem ofOperation_malformed (name message : String) :
    Event.ofOperation name none (.error ⟨some .badRequest, message⟩) =
      ⟨.warn, "[BadRequestError] " ++ name ++ "(): " ++ message,
        [("op", name), ("error", message)]⟩ := by
  simp only [Event.ofOperation, OperationRecord.of, Level.ofKind, invocation, Failure.tag,
    FailureKind.tag, FailureKind.name, Option.map_none, Option.getD_none, String.append_assoc]
  rfl

section

variable {State : Type} (engine : Engine State)

theorem Malformed.serve_eq {request : HttpRequest} {operation : Operation} {fault : Fault}
    (malformed : Malformed request operation fault) (fits : Fits operation request.body)
    (state : State) :
    let message := "malformed request: " ++ fault.message request.body
    serve engine state request =
      ⟨failed ⟨some .badRequest, message⟩,
        [⟨.warn, "[BadRequestError] " ++ operation.name ++ "(): " ++ message,
          [("op", operation.name), ("error", message)]⟩], state⟩ := by
  intro message
  rw [serve_of_unread engine state malformed.posted malformed.routed fits
    malformed.decodeBody_eq, malformedBody, ofOperation_malformed]

theorem rejects_of_rejected {request : HttpRequest} (rejected : Rejected request)
    (state : State) :
    (serve engine state request).state = state ∧
      Rejects request (serve engine state request).answer
        (serve engine state request).events := by
  by_cases known : targetPath request.target ∈ paths
  · obtain ⟨resource, found⟩ := Option.isSome_iff_exists.mp (mem_paths.mp known)
    by_cases posted : request.method = "POST"
    · cases rejected with
      | notPosted method => exact absurd posted method
      | unknownPath unknown => exact absurd known unknown
      | malformed operation fault here =>
          by_cases fits : Fits operation request.body
          · rw [here.serve_eq engine fits state]
            exact ⟨rfl, .malformed here fits rfl⟩
          · rw [serve_of_oversized engine state here.posted here.routed fits]
            exact ⟨rfl, .oversized ⟨here.posted, here.routed, fits⟩⟩
      | oversized operation here =>
          rw [serve_of_oversized engine state here.posted here.routed here.long]
          exact ⟨rfl, .oversized here⟩
    · simp only [serve, found, posted, ne_eq, not_false_eq_true, if_true]
      exact ⟨rfl, .methodNotAllowed known posted⟩
  · have missing : resource? request.target = none := by
      rwa [mem_paths, Bool.not_eq_true, Option.isSome_eq_false_iff, Option.isNone_iff_eq_none]
        at known
    simp only [serve, missing]
    exact ⟨rfl, .notFound known⟩

end

/-! ## Sessions -/

structure Posted (State : Type) where
  engine : Engine State
  request : HttpRequest

variable {State : Type}

def Posted.serve (past : State × List Call) (posted : Posted State) :
    Turn (State × List Call) HttpResponse :=
  Http.serve posted.engine.recorded past posted.request

/-- A name that is no text. -/
def nameless : HttpRequest where
  target := "/NetworkDriver.EndpointOperInfo"
  body := "\x7b\"NetworkID\":\"".toUTF8.toList ++ [0xff] ++ "\"\x7d".toUTF8.toList

theorem body_nameless : nameless.body =
    [123, 34, 78, 101, 116, 119, 111, 114, 107, 73, 68, 34, 58, 34, 255, 34, 125] := by
  decide +kernel

theorem malformed_nameless : Malformed nameless .endpointInfo ⟨.malformedText, 15⟩ where
  posted := rfl
  routed := rfl
  nonblank := ⟨0xff, by simp [nameless], by decide⟩
  unread := by
    rw [body_nameless]
    exact ⟨.endpointInfo, rfl, by with_unfolding_all rfl⟩

end Http

end NetworkPlugin
