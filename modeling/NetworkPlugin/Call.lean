import NetworkPlugin.Attachment
import NetworkPlugin.Interface
import NetworkPlugin.Log
import NetworkPlugin.Pool

/-!
# Calls and engines

An engine owns networks and endpoints.  It is any function from a state and a call to
a turn, whose answer has the type that the call asks for.
-/

namespace NetworkPlugin

inductive Call where
  | createNetwork (network : String) (options : Options) (ipv4 ipv6 : List Pool)
  | deleteNetwork (network : String)
  | createEndpoint (network endpoint : String) (interface : Interface) (options : Options)
  | deleteEndpoint (network endpoint : String)
  | endpointInfo (network endpoint : String)
  | join (network endpoint sandbox : String) (options : Options)
  | leave (network endpoint : String)

@[reducible] def Call.Reply : Call → Type
  | createNetwork .. => Unit
  | deleteNetwork .. => Unit
  | createEndpoint .. => Interface
  | deleteEndpoint .. => Unit
  | endpointInfo .. => Dictionary String
  | join .. => Attachment
  | leave .. => Unit

/-! ## Turns -/

/-- What something leads to: an answer, events in order, and the next state. -/
structure Turn (State Answer : Type) where
  answer : Answer
  events : List Event
  state : State

namespace Turn

variable {State Answer Other : Type}

def idle (state : State) (answer : Answer) : Turn State Answer := ⟨answer, [], state⟩

def map (f : Answer → Other) (turn : Turn State Answer) : Turn State Other :=
  { turn with answer := f turn.answer }

@[simp] theorem map_idle (f : Answer → Other) (state : State) (answer : Answer) :
    (idle state answer).map f = idle state (f answer) := rfl

def log (turn : Turn State Answer) (events : List Event) : Turn State Answer :=
  { turn with events := turn.events ++ events }

end Turn

structure Engine (State : Type) where
  handle : State → (call : Call) → Turn State (Except Failure call.Reply)

end NetworkPlugin
