import NetworkPlugin.Address.Canonical
import NetworkPlugin.Wire.Record

/-!
# Attachments

What a sandbox is told when an endpoint joins it: the device to move and the prefix
of its new name, gateways, and routes.  Addresses that are not set are empty texts on
the wire and are not written.
-/

namespace NetworkPlugin

structure DeviceName where
  source : String := ""
  targetPrefix : String := ""
deriving DecidableEq

def DeviceName.schema : Schema DeviceName where
  name := "InterfaceName"
  blank := {}
  fields := [
    .required "SrcName" "src_name" .string (·.source)
      (fun value record => { record with source := value }),
    .required "DstPrefix" "dst_prefix" .string (·.targetPrefix)
      (fun value record => { record with targetPrefix := value })]

/-! ## Attachments as the engine gives them -/

inductive RouteKind where
  | nextHop
  | connected
deriving DecidableEq, Repr

def RouteKind.code : RouteKind → Int32
  | nextHop => 0
  | connected => 1

structure Route where
  destination : AnySubnet
  kind : RouteKind
  nextHop : Option AnyAddress
deriving DecidableEq

structure Attachment where
  device : DeviceName := {}
  gateway : Option (Address .v4) := none
  gatewayV6 : Option (Address .v6) := none
  routes : List Route := []
  disableGatewayService : Bool := false
deriving DecidableEq

/-! ## Attachments on the wire -/

structure RouteText where
  destination : String := ""
  kind : Int32 := 0
  nextHop : String := ""
deriving DecidableEq

def RouteText.schema : Schema RouteText where
  name := "StaticRoute"
  blank := {}
  fields := [
    .required "Destination" "destination" .string (·.destination)
      (fun value record => { record with destination := value }),
    .required "RouteType" "route_type" .int32 (·.kind)
      (fun value record => { record with kind := value }),
    .of "NextHop" "next_hop" .anywhere .string String.isEmpty (·.nextHop)
      (fun value record => { record with nextHop := value })]

structure AttachmentText where
  device : DeviceName := {}
  gateway : String := ""
  gatewayV6 : String := ""
  routes : List RouteText := []
  disableGatewayService : Bool := false
deriving DecidableEq

def AttachmentText.schema : Schema AttachmentText where
  name := "JoinResponse"
  blank := {}
  fields := [
    .required "InterfaceName" "interface_name" DeviceName.schema.codec (·.device)
      (fun value record => { record with device := value }),
    .of "Gateway" "gateway" .anywhere .string String.isEmpty (·.gateway)
      (fun value record => { record with gateway := value }),
    .of "GatewayIPv6" "gateway_ipv6" .anywhere .string String.isEmpty (·.gatewayV6)
      (fun value record => { record with gatewayV6 := value }),
    .of "StaticRoutes" "static_routes" .anywhere RouteText.schema.codec.list List.isEmpty
      (·.routes) (fun value record => { record with routes := value }),
    .of "DisableGatewayService" "disable_gateway_service" .anywhere .bool (fun _ => false)
      (·.disableGatewayService)
      (fun value record => { record with disableGatewayService := value })]

def Route.toText (route : Route) : RouteText where
  destination := route.destination.render
  kind := route.kind.code
  nextHop := (route.nextHop.map AnyAddress.render).getD ""

def Attachment.toText (attachment : Attachment) : AttachmentText where
  device := attachment.device
  gateway := (attachment.gateway.map Address.render).getD ""
  gatewayV6 := (attachment.gatewayV6.map Address.render).getD ""
  routes := attachment.routes.map Route.toText
  disableGatewayService := attachment.disableGatewayService

end NetworkPlugin
