import NetworkPlugin.Interface
import NetworkPlugin.Pool

/-!
# Arguments of requests

The shapes of arguments and their schemas.  Requests with the same fields share a
shape and differ only in the name by which they are shown.  Everything may be left
out or null.
-/

namespace NetworkPlugin

structure NetworkRef where
  network : String := ""
deriving DecidableEq

structure EndpointRef where
  network : String := ""
  endpoint : String := ""
deriving DecidableEq

structure NetworkArguments (Setting : Type) where
  network : String := ""
  options : Dictionary Setting := ∅
  ipv4 : List PoolEntry := []
  ipv6 : List PoolEntry := []

structure EndpointArguments where
  network : String := ""
  endpoint : String := ""
  interface : Option InterfaceText := none
  options : Options := ∅

structure JoinArguments where
  network : String := ""
  endpoint : String := ""
  sandbox : String := ""
  options : Options := ∅

structure ConnectivityArguments where
  network : String := ""
  endpoint : String := ""
  options : Options := ∅

structure Discovery where
  kind : Int32 := 0
  data : Json := .null

/-! ## Schemas -/

def NetworkRef.schema (name : String) : Schema NetworkRef where
  name := name
  blank := {}
  fields := [
    .optional "NetworkID" "network_id" .string "" (·.network)
      (fun value record => { record with network := value })]

def EndpointRef.schema (name : String) : Schema EndpointRef where
  name := name
  blank := {}
  fields := [
    .optional "NetworkID" "network_id" .string "" (·.network)
      (fun value record => { record with network := value }),
    .optional "EndpointID" "endpoint_id" .string "" (·.endpoint)
      (fun value record => { record with endpoint := value })]

def NetworkArguments.schema {Setting : Type} (name : String) (setting : Codec Setting) :
    Schema (NetworkArguments Setting) where
  name := name
  blank := {}
  fields := [
    .optional "NetworkID" "network_id" .string "" (·.network)
      (fun value record => { record with network := value }),
    .optional "Options" "options" setting.dictionary ∅ (·.options)
      (fun value record => { record with options := value }),
    .optional "IPv4Data" "ipv4_data" PoolEntry.schema.codec.list [] (·.ipv4)
      (fun value record => { record with ipv4 := value }),
    .optional "IPv6Data" "ipv6_data" PoolEntry.schema.codec.list [] (·.ipv6)
      (fun value record => { record with ipv6 := value })]

def EndpointArguments.schema : Schema EndpointArguments where
  name := "CreateEndpointRequest"
  blank := {}
  fields := [
    .optional "NetworkID" "network_id" .string "" (·.network)
      (fun value record => { record with network := value }),
    .optional "EndpointID" "endpoint_id" .string "" (·.endpoint)
      (fun value record => { record with endpoint := value }),
    .of "Interface" "interface" .anywhere InterfaceText.schema.codec.option
      (fun _ => false) (·.interface) (fun value record => { record with interface := value }),
    .optional "Options" "options" Codec.json.dictionary ∅ (·.options)
      (fun value record => { record with options := value })]

def JoinArguments.schema : Schema JoinArguments where
  name := "JoinRequest"
  blank := {}
  fields := [
    .optional "NetworkID" "network_id" .string "" (·.network)
      (fun value record => { record with network := value }),
    .optional "EndpointID" "endpoint_id" .string "" (·.endpoint)
      (fun value record => { record with endpoint := value }),
    .optional "SandboxKey" "sandbox_key" .string "" (·.sandbox)
      (fun value record => { record with sandbox := value }),
    .optional "Options" "options" Codec.json.dictionary ∅ (·.options)
      (fun value record => { record with options := value })]

def ConnectivityArguments.schema : Schema ConnectivityArguments where
  name := "ProgramExternalConnectivityRequest"
  blank := {}
  fields := [
    .optional "NetworkID" "network_id" .string "" (·.network)
      (fun value record => { record with network := value }),
    .optional "EndpointID" "endpoint_id" .string "" (·.endpoint)
      (fun value record => { record with endpoint := value }),
    .optional "Options" "options" Codec.json.dictionary ∅ (·.options)
      (fun value record => { record with options := value })]

/-- Null is a value of the data like any other. -/
def Discovery.schema : Schema Discovery where
  name := "DiscoveryNotification"
  blank := {}
  fields := [
    .optional "DiscoveryType" "discovery_type" .int32 0 (·.kind)
      (fun value record => { record with kind := value }),
    .of "DiscoveryData" "discovery_data" .anywhere .json (fun _ => false) (·.data)
      (fun value record => { record with data := value })]

end NetworkPlugin
