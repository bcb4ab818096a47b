/-!
# Failures

Every failure of an operation has one of nine kinds, or none if nothing more specific
is known, and a message for the caller.
-/

namespace NetworkPlugin

inductive FailureKind where
  | maskable
  | retry
  | badRequest
  | notFound
  | forbidden
  | noService
  | notImplemented
  | timeout
  | internal
deriving DecidableEq, Repr

namespace FailureKind

def all : List FailureKind :=
  [maskable, retry, badRequest, notFound, forbidden, noService, notImplemented, timeout,
    internal]

theorem mem_all (kind : FailureKind) : kind ∈ all := by cases kind <;> decide

def name : FailureKind → String
  | maskable => "Maskable"
  | retry => "Retry"
  | badRequest => "BadRequest"
  | notFound => "NotFound"
  | forbidden => "Forbidden"
  | noService => "NoService"
  | notImplemented => "NotImplemented"
  | timeout => "Timeout"
  | internal => "Internal"

def tag (kind : FailureKind) : String := kind.name ++ "Error"

end FailureKind

structure Failure where
  kind : Option FailureKind
  message : String
deriving DecidableEq

def tagWithoutKind : String := "UNKNOWN"

def Failure.tag (failure : Failure) : String :=
  match failure.kind with
  | some kind => kind.tag
  | none => tagWithoutKind

end NetworkPlugin
