import NetworkPlugin.Call
import NetworkPlugin.Registry.Assignment

/-!
# Networks in memory

Networks with their pools and endpoints, without devices, and what can be looked up
among them.
-/

namespace NetworkPlugin

structure Endpoint where
  hardware : HardwareAddress
  ipv4 : Option (Subnet .v4)
  ipv6 : Option (Subnet .v6)
  sandbox : Option String := none
deriving DecidableEq

structure Network where
  ipv4 : List Pool
  ipv6 : List Pool
  endpoints : Dictionary Endpoint := ∅
deriving DecidableEq

abbrev Registry := Dictionary Network

namespace Endpoint

def address (endpoint : Endpoint) : (family : Family) → Option (Subnet family)
  | .v4 => endpoint.ipv4
  | .v6 => endpoint.ipv6

def held (endpoint : Endpoint) (family : Family) : Option (Address family) :=
  (endpoint.address family).map (·.address)

end Endpoint

namespace Network

def pools (network : Network) : Family → List Pool
  | .v4 => network.ipv4
  | .v6 => network.ipv6

def subnets (network : Network) (family : Family) : List (Subnet family) :=
  Assignment.subnets family (network.pools family)

/-! ## Addresses in use -/

/-- Addresses of gateways and auxiliary addresses in either list of pools. -/
def kept (network : Network) (family : Family) : List (Address family) :=
  (network.ipv4 ++ network.ipv6).flatMap (·.kept family)

def held (network : Network) (family : Family) : List (Address family) :=
  network.endpoints.values.filterMap (·.held family)

def used (network : Network) (family : Family) : List (Address family) :=
  network.kept family ++ network.held family

/-! ## New endpoints -/

/-- The endpoint that a request leads to; `drawn` is its hardware address unless one is
requested. -/
def newEndpoint (network : Network) (requested : Interface) (drawn : HardwareAddress) :
    Except Refusal Endpoint := do
  let ipv4 ← Assignment.assign (network.subnets .v4) (network.used .v4) requested.ipv4
  let ipv6 ← Assignment.assign (network.subnets .v6) (network.used .v6) requested.ipv6
  return { hardware := requested.hardware.getD drawn.localUnicast, ipv4, ipv6 }

/-! ## Attaching -/

def gateway? (network : Network) (family : Family) : Option (Address family) :=
  (network.pools family).findSome? fun pool =>
    pool.gateway.bind fun gateway => (family.select? gateway).map (·.address)

def hostDevice (endpoint : String) : String :=
  "veth" ++ String.ofList (endpoint.toList.take 7)

def attachment (network : Network) (endpoint : String) : Attachment where
  device := ⟨hostDevice endpoint, "eth"⟩
  gateway := network.gateway? .v4
  gatewayV6 := network.gateway? .v6

end Network

namespace Endpoint

def assignedPart (endpoint : Endpoint) (requested : Interface) : Interface where
  hardware := if requested.hardware.isNone then some endpoint.hardware else none
  ipv4 := if requested.ipv4.isNone then endpoint.ipv4 else none
  ipv6 := if requested.ipv6.isNone then endpoint.ipv6 else none

def report (network name : String) (endpoint : Endpoint) : Dictionary String :=
  let known : List (String × Option String) :=
    [("id", some name), ("network_id", some network),
      ("mac_address", some endpoint.hardware.render),
      ("address", endpoint.ipv4.map Subnet.render),
      ("address_ipv6", endpoint.ipv6.map Subnet.render),
      ("sandbox_key", endpoint.sandbox)]
  .ofList (known.filterMap fun (name, value) => value.map fun text => (name, text)) compare

end Endpoint

/-! ## Looking up -/

namespace Registry

def names (registry : Registry) : List String := registry.keys

def find (registry : Registry) (network : String) : Except Refusal Network :=
  match registry[network]? with
  | some found => .ok found
  | none => .error (.networkUnknown network)

def findEndpoint (registry : Registry) (network endpoint : String) :
    Except Refusal (Network × Endpoint) := do
  let owner ← registry.find network
  match owner.endpoints[endpoint]? with
  | some found => .ok (owner, found)
  | none => .error (.endpointUnknown network endpoint)

def putEndpoint (registry : Registry) (network endpoint : String) (owner : Network)
    (value : Endpoint) : Registry :=
  registry.insert network { owner with endpoints := owner.endpoints.insert endpoint value }

def dropEndpoint (registry : Registry) (network endpoint : String) (owner : Network) :
    Registry :=
  registry.insert network { owner with endpoints := owner.endpoints.erase endpoint }

end Registry

end NetworkPlugin
