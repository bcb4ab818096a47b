import NetworkPlugin.Dispatch

/-!
# Plugin requests over HTTP

Every operation has a path of its own and is reached by POST.  Requests and responses
are JSON; a failure of whatever kind is answered by the same status with its message.
What the server answers by itself is no JSON.
-/

namespace NetworkPlugin.Http

open Json

structure HttpRequest where
  method : String := "POST"
  target : String
  body : List UInt8 := []

inductive Content where
  | json (value : Json)
  | text (text : String)

structure HttpResponse where
  status : Nat
  contentType : Option String := none
  allow : Option String := none
  body : Content := .text ""

/-! ## Paths -/

inductive Resource where
  | activate
  | operation (operation : Operation)
deriving DecidableEq

def subsystem : String := "NetworkDriver"

def pathName : Operation → String
  | .endpointInfo => "EndpointOperInfo"
  | operation => operation.name

namespace Resource

def path : Resource → String
  | activate => "/Plugin.Activate"
  | operation requested => "/" ++ subsystem ++ "." ++ pathName requested

def all : List Resource := activate :: Operation.all.map operation

theorem mem_all (resource : Resource) : resource ∈ all := by
  cases resource with
  | activate => exact List.mem_cons_self
  | operation requested =>
      exact List.mem_cons_of_mem _ (List.mem_map_of_mem requested.mem_all)

end Resource

/-! ## Targets

A target is a path or a URL, which has a scheme and a server in front of its path.
Query and fragment, which may follow, do not matter. -/

/-- The characters of a scheme, which may come in any order.  The tilde is let through
although schemes in use do without it. -/
def isSchemeChar (c : Char) : Bool :=
  c.isAlphanum || c = '+' || c = '-' || c = '.' || c = '~'

def afterScheme? : List Char → Option (List Char)
  | ':' :: '/' :: '/' :: rest => some rest
  | c :: rest => if isSchemeChar c then afterScheme? rest else none
  | [] => none

def endsPath (c : Char) : Bool := c = '?' || c = '#'

def endsServer (c : Char) : Bool := c = '/' || endsPath c

def fromPath (target : List Char) : List Char :=
  match afterScheme? target with
  | some server => server.dropWhile fun c => !endsServer c
  | none => target

def targetPath (target : String) : String :=
  String.ofList ((fromPath target.toList).takeWhile fun c => !endsPath c)

def resource? (target : String) : Option Resource :=
  Resource.all.find? fun resource => resource.path = targetPath target

/-! ## Bodies -/

/-- The greatest length of a body in bytes.  The limit is one of the server, which answers by
itself if a body is longer: the plugin never gets to see it. -/
def bodyLimit : Nat := 2097152

/-- A body that the server hands on.  For the capabilities none is asked for, so that the body
may be of any length. -/
def Fits (operation : Operation) (body : List UInt8) : Prop :=
  operation = .getCapabilities ∨ body.length ≤ bodyLimit

instance (operation : Operation) (body : List UInt8) : Decidable (Fits operation body) :=
  inferInstanceAs (Decidable (_ ∨ _))

/-- The blanks of ASCII, among which the form feed, but not the vertical tab. -/
def isAsciiBlank (byte : UInt8) : Bool :=
  match character byte with
  | ' ' | '\t' | '\n' | '\x0c' | '\r' => true
  | _ => false

/-- A blank body stands for a request without arguments. -/
def decodeBody (operation : Operation) (body : List UInt8) : Except Fault Request :=
  if body.all isAsciiBlank then .ok operation.blank else operation.decode body

def malformedBody (body : List UInt8) (fault : Fault) : Failure :=
  ⟨some .badRequest, "malformed request: " ++ fault.message body⟩

/-! ## Responses -/

def contentType : String := "application/vnd.docker.plugins.v1.2+json"

def success (body : Json) : HttpResponse where
  status := 200
  contentType := some contentType
  body := .json body

def failed (failure : Failure) : HttpResponse where
  status := 500
  contentType := some contentType
  body := .json (ErrorBody.schema.codec.write ⟨failure.message⟩)

def notFound : HttpResponse where
  status := 404

def methodNotAllowed : HttpResponse where
  status := 405
  allow := some "POST"

def tooLarge : HttpResponse where
  status := 413
  contentType := some "text/plain; charset=utf-8"
  body := .text "Failed to buffer the request body: length limit exceeded"

def HttpResponse.of : Except Failure Response → HttpResponse
  | .ok response => success response.json
  | .error failure => failed failure

/-! ## Answering -/

/-- A body that cannot be read fails its operation, and is recorded as such.  One that is too
long fails nothing, as no operation is begun. -/
def serveOperation {State : Type} (engine : Engine State) (state : State)
    (operation : Operation) (body : List UInt8) : Turn State HttpResponse :=
  if Fits operation body then
    match decodeBody operation body with
    | .ok request => (dispatch engine state request).map .of
    | .error fault =>
        let failure := malformedBody body fault
        (Turn.idle state (failed failure)).log
          [.ofOperation operation.name none (.error failure)]
  else .idle state tooLarge

def serve {State : Type} (engine : Engine State) (state : State) (request : HttpRequest) :
    Turn State HttpResponse :=
  match resource? request.target with
  | none => .idle state notFound
  | some resource =>
      if request.method ≠ "POST" then .idle state methodNotAllowed
      else
        match resource with
        | .activate =>
            .idle state (success (Activation.schema.codec.write ⟨[subsystem]⟩))
        | .operation operation => serveOperation engine state operation request.body

end NetworkPlugin.Http
