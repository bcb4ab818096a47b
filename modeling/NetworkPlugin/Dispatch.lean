import NetworkPlugin.Call
import NetworkPlugin.Operation

/-!
# Dispatching requests

A request is planned without the engine: either its answer is known at once, or one
call is made and its reply becomes a response.  Carrying a plan out never makes a second
call, and every operation is recorded once, after the events of the engine.
-/

namespace NetworkPlugin

inductive Plan where
  | answer (result : Except Failure Response)
  | ask (call : Call) (respond : call.Reply → Response)

def hostScope : String := "local"

def badRequest (what message : String) : Failure :=
  ⟨some .badRequest, "invalid " ++ what ++ ": " ++ message⟩

def notImplemented : Failure := ⟨some .notImplemented, "not implemented"⟩

def readPools (family : Family) (entries : List PoolEntry) : Except Failure (List Pool) :=
  (Pool.ofEntries entries).mapError fun fault =>
    badRequest (family.name ++ " information") fault.message

def readInterface (arguments : EndpointArguments) : Except Failure Interface :=
  (Interface.ofText? arguments.interface).mapError fun fault =>
    badRequest "endpoint info" fault.message

namespace Request

def plan : Request → Plan
  | getCapabilities => .answer (.ok (.capabilities ⟨hostScope, hostScope⟩))
  | createNetwork arguments =>
      match readPools .v4 arguments.ipv4, readPools .v6 arguments.ipv6 with
      | .error failure, _ => .answer (.error failure)
      | .ok _, .error failure => .answer (.error failure)
      | .ok ipv4, .ok ipv6 =>
          .ask (.createNetwork arguments.network arguments.options ipv4 ipv6) fun _ => .done
  | allocateNetwork _ => .answer (.error notImplemented)
  | deleteNetwork arguments => .ask (.deleteNetwork arguments.network) fun _ => .done
  | freeNetwork _ => .answer (.error notImplemented)
  | createEndpoint arguments =>
      match readInterface arguments with
      | .error failure => .answer (.error failure)
      | .ok interface =>
          .ask
            (.createEndpoint arguments.network arguments.endpoint interface arguments.options)
            fun assigned => .endpoint ⟨some assigned.toText⟩
  | deleteEndpoint arguments =>
      .ask (.deleteEndpoint arguments.network arguments.endpoint) fun _ => .done
  | endpointInfo arguments =>
      .ask (.endpointInfo arguments.network arguments.endpoint) fun value => .report ⟨value⟩
  | join arguments =>
      .ask (.join arguments.network arguments.endpoint arguments.sandbox arguments.options)
        fun attachment => .attachment attachment.toText
  | leave arguments => .ask (.leave arguments.network arguments.endpoint) fun _ => .done
  | discoverNew _ => .answer (.ok .done)
  | discoverDelete _ => .answer (.ok .done)
  | programExternalConnectivity _ => .answer (.ok .done)
  | revokeExternalConnectivity _ => .answer (.ok .done)

end Request

def Plan.run {State : Type} (engine : Engine State) (state : State) :
    Plan → Turn State (Except Failure Response)
  | answer result => .idle state result
  | ask call respond => (engine.handle state call).map (·.map respond)

def Request.event (request : Request) (result : Except Failure Response) : Event :=
  .ofOperation request.operation.name request.snapshot? (result.map Response.snapshot?)

def dispatch {State : Type} (engine : Engine State) (state : State) (request : Request) :
    Turn State (Except Failure Response) :=
  let turn := request.plan.run engine state
  turn.log [request.event turn.answer]

end NetworkPlugin
