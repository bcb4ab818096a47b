import NetworkPlugin.Wire.Arguments
import NetworkPlugin.Wire.Responses

/-!
# Operations

The fourteen operations of a network driver, the requests that name them, and the
responses that they can give.
-/

namespace NetworkPlugin

open Json

inductive Operation where
  | getCapabilities
  | createNetwork
  | allocateNetwork
  | deleteNetwork
  | freeNetwork
  | createEndpoint
  | deleteEndpoint
  | endpointInfo
  | join
  | leave
  | discoverNew
  | discoverDelete
  | programExternalConnectivity
  | revokeExternalConnectivity
deriving DecidableEq, Repr

inductive Request where
  | getCapabilities
  | createNetwork (arguments : NetworkArguments Json)
  | allocateNetwork (arguments : NetworkArguments String)
  | deleteNetwork (arguments : NetworkRef)
  | freeNetwork (arguments : NetworkRef)
  | createEndpoint (arguments : EndpointArguments)
  | deleteEndpoint (arguments : EndpointRef)
  | endpointInfo (arguments : EndpointRef)
  | join (arguments : JoinArguments)
  | leave (arguments : EndpointRef)
  | discoverNew (arguments : Discovery)
  | discoverDelete (arguments : Discovery)
  | programExternalConnectivity (arguments : ConnectivityArguments)
  | revokeExternalConnectivity (arguments : EndpointRef)

inductive Response where
  | done
  | capabilities (value : Capabilities)
  | allocation (value : Allocation)
  | endpoint (value : EndpointAnswer)
  | report (value : EndpointReport)
  | attachment (value : AttachmentText)

/-! ## Operations and their requests -/

namespace Operation

def all : List Operation :=
  [getCapabilities, createNetwork, allocateNetwork, deleteNetwork, freeNetwork,
    createEndpoint, deleteEndpoint, endpointInfo, join, leave, discoverNew, discoverDelete,
    programExternalConnectivity, revokeExternalConnectivity]

theorem mem_all (operation : Operation) : operation ∈ all := by
  cases operation <;> decide

def name : Operation → String
  | getCapabilities => "GetCapabilities"
  | createNetwork => "CreateNetwork"
  | allocateNetwork => "AllocateNetwork"
  | deleteNetwork => "DeleteNetwork"
  | freeNetwork => "FreeNetwork"
  | createEndpoint => "CreateEndpoint"
  | deleteEndpoint => "DeleteEndpoint"
  | endpointInfo => "EndpointInfo"
  | join => "Join"
  | leave => "Leave"
  | discoverNew => "DiscoverNew"
  | discoverDelete => "DiscoverDelete"
  | programExternalConnectivity => "ProgramExternalConnectivity"
  | revokeExternalConnectivity => "RevokeExternalConnectivity"

end Operation

def createNetworkSchema : Schema (NetworkArguments Json) :=
  NetworkArguments.schema "CreateNetworkRequest" Codec.json

def allocateNetworkSchema : Schema (NetworkArguments String) :=
  NetworkArguments.schema "AllocateNetworkRequest" Codec.string

def deleteNetworkSchema : Schema NetworkRef := NetworkRef.schema "DeleteNetworkRequest"

def freeNetworkSchema : Schema NetworkRef := NetworkRef.schema "FreeNetworkRequest"

def deleteEndpointSchema : Schema EndpointRef := EndpointRef.schema "DeleteEndpointRequest"

def endpointInfoSchema : Schema EndpointRef := EndpointRef.schema "InfoRequest"

def leaveSchema : Schema EndpointRef := EndpointRef.schema "LeaveRequest"

def revokeSchema : Schema EndpointRef :=
  EndpointRef.schema "RevokeExternalConnectivityRequest"

namespace Operation

/-- Read the request of an operation.  The capabilities depend on no argument, and
what is sent for them is not looked at. -/
def read : Operation → Doc → Except Fault Request
  | getCapabilities, _ => .ok .getCapabilities
  | createNetwork, doc => (createNetworkSchema.read doc).map .createNetwork
  | allocateNetwork, doc => (allocateNetworkSchema.read doc).map .allocateNetwork
  | deleteNetwork, doc => (deleteNetworkSchema.read doc).map .deleteNetwork
  | freeNetwork, doc => (freeNetworkSchema.read doc).map .freeNetwork
  | createEndpoint, doc => (EndpointArguments.schema.read doc).map .createEndpoint
  | deleteEndpoint, doc => (deleteEndpointSchema.read doc).map .deleteEndpoint
  | endpointInfo, doc => (endpointInfoSchema.read doc).map .endpointInfo
  | join, doc => (JoinArguments.schema.read doc).map .join
  | leave, doc => (leaveSchema.read doc).map .leave
  | discoverNew, doc => (Discovery.schema.read doc).map .discoverNew
  | discoverDelete, doc => (Discovery.schema.read doc).map .discoverDelete
  | programExternalConnectivity, doc =>
      (ConnectivityArguments.schema.read doc).map .programExternalConnectivity
  | revokeExternalConnectivity, doc =>
      (revokeSchema.read doc).map .revokeExternalConnectivity

def blank : Operation → Request
  | getCapabilities => .getCapabilities
  | createNetwork => .createNetwork {}
  | allocateNetwork => .allocateNetwork {}
  | deleteNetwork => .deleteNetwork {}
  | freeNetwork => .freeNetwork {}
  | createEndpoint => .createEndpoint {}
  | deleteEndpoint => .deleteEndpoint {}
  | endpointInfo => .endpointInfo {}
  | join => .join {}
  | leave => .leave {}
  | discoverNew => .discoverNew {}
  | discoverDelete => .discoverDelete {}
  | programExternalConnectivity => .programExternalConnectivity {}
  | revokeExternalConnectivity => .revokeExternalConnectivity {}

def takesArguments (operation : Operation) : Bool := operation ≠ getCapabilities

def decode (operation : Operation) (text : List UInt8) : Except Fault Request :=
  if operation.takesArguments then Codec.decodeWith operation.read text
  else .ok operation.blank

def ofJson (operation : Operation) (value : Json) : Except Cause Request :=
  if operation.takesArguments then Codec.ofJsonWith operation.read value
  else .ok operation.blank

end Operation

namespace Request

def operation : Request → Operation
  | getCapabilities => .getCapabilities
  | createNetwork _ => .createNetwork
  | allocateNetwork _ => .allocateNetwork
  | deleteNetwork _ => .deleteNetwork
  | freeNetwork _ => .freeNetwork
  | createEndpoint _ => .createEndpoint
  | deleteEndpoint _ => .deleteEndpoint
  | endpointInfo _ => .endpointInfo
  | join _ => .join
  | leave _ => .leave
  | discoverNew _ => .discoverNew
  | discoverDelete _ => .discoverDelete
  | programExternalConnectivity _ => .programExternalConnectivity
  | revokeExternalConnectivity _ => .revokeExternalConnectivity

def snapshot? : Request → Option Snapshot
  | getCapabilities => none
  | createNetwork arguments => some (createNetworkSchema.codec.snapshot arguments)
  | allocateNetwork arguments => some (allocateNetworkSchema.codec.snapshot arguments)
  | deleteNetwork arguments => some (deleteNetworkSchema.codec.snapshot arguments)
  | freeNetwork arguments => some (freeNetworkSchema.codec.snapshot arguments)
  | createEndpoint arguments => some (EndpointArguments.schema.codec.snapshot arguments)
  | deleteEndpoint arguments => some (deleteEndpointSchema.codec.snapshot arguments)
  | endpointInfo arguments => some (endpointInfoSchema.codec.snapshot arguments)
  | join arguments => some (JoinArguments.schema.codec.snapshot arguments)
  | leave arguments => some (leaveSchema.codec.snapshot arguments)
  | discoverNew arguments => some (Discovery.schema.codec.snapshot arguments)
  | discoverDelete arguments => some (Discovery.schema.codec.snapshot arguments)
  | programExternalConnectivity arguments =>
      some (ConnectivityArguments.schema.codec.snapshot arguments)
  | revokeExternalConnectivity arguments => some (revokeSchema.codec.snapshot arguments)

end Request

theorem Operation.operation_blank (operation : Operation) :
    operation.blank.operation = operation := by
  cases operation <;> rfl

/-! ## Responses -/

namespace Response

def json : Response → Json
  | done => emptySchema.codec.write ()
  | capabilities value => Capabilities.schema.codec.write value
  | allocation value => Allocation.schema.codec.write value
  | endpoint value => EndpointAnswer.schema.codec.write value
  | report value => EndpointReport.schema.codec.write value
  | attachment value => AttachmentText.schema.codec.write value

def snapshot? : Response → Option Snapshot
  | done => none
  | capabilities value => some (Capabilities.schema.codec.snapshot value)
  | allocation value => some (Allocation.schema.codec.snapshot value)
  | endpoint value => some (EndpointAnswer.schema.codec.snapshot value)
  | report value => some (EndpointReport.schema.codec.snapshot value)
  | attachment value => some (AttachmentText.schema.codec.snapshot value)

end Response

end NetworkPlugin
