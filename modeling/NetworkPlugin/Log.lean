import NetworkPlugin.Failure
import NetworkPlugin.Text.Snapshot

/-!
# Log events

An event has a level, a message and named fields.  Every operation is recorded by one
event, whose level follows from the kind of its failure.
-/

namespace NetworkPlugin

inductive Level where
  | debug
  | info
  | warn
  | error
deriving DecidableEq, Repr

def Level.name : Level → String
  | debug => "DEBUG"
  | info => "INFO"
  | warn => "WARN"
  | error => "ERROR"

/-- Failures that are no fault of the engine are not errors; those that ask for
nothing to be done are not even warnings. -/
def Level.ofKind : Option FailureKind → Level
  | some .maskable | some .retry => .info
  | some .badRequest | some .notFound | some .forbidden | some .noService
  | some .notImplemented => .warn
  | some .timeout | some .internal | none => .error

structure Event where
  level : Level
  message : String
  fields : List (String × String)
deriving DecidableEq

/-! ## Records of operations -/

structure OperationRecord where
  level : Level
  tag : Option String
  message : String
deriving DecidableEq

def invocation (operation : String) (arguments : Option Snapshot) : String :=
  operation ++ "(" ++ (arguments.map Snapshot.render).getD "" ++ ")"

def OperationRecord.of (operation : String) (arguments : Option Snapshot) :
    Except Failure (Option Snapshot) → OperationRecord
  | .ok none => ⟨.info, none, invocation operation arguments⟩
  | .ok (some result) =>
      ⟨.info, none, invocation operation arguments ++ ": " ++ result.render⟩
  | .error failure =>
      { level := Level.ofKind failure.kind
        tag := some failure.tag
        message :=
          "[" ++ failure.tag ++ "] " ++ invocation operation arguments ++ ": " ++
            failure.message }

def Event.ofOperation (operation : String) (arguments : Option Snapshot)
    (outcome : Except Failure (Option Snapshot)) : Event :=
  let record := OperationRecord.of operation arguments outcome
  { level := record.level
    message := record.message
    fields :=
      ("op", operation) ::
        match outcome with
        | .ok _ => []
        | .error failure => [("error", failure.message)] }

end NetworkPlugin
