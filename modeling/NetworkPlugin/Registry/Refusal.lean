import NetworkPlugin.Address.Canonical
import NetworkPlugin.Failure
import NetworkPlugin.Text.Numeral

/-!
# Refusals

Why networks and endpoints kept in memory cannot be changed as a call asks.
-/

namespace NetworkPlugin

open Text

inductive Refusal where
  | networkExists (network : String)
  | networkUnknown (network : String)
  | networkInUse (network : String) (endpoints : Nat)
  | endpointExists (network endpoint : String)
  | endpointUnknown (network endpoint : String)
  | outsidePools (family : Family) (requested : Subnet family)
  | notAHost (family : Family) (address : Address family) (pool : Subnet family)
  | addressInUse (family : Family) (address : Address family)
  | poolExhausted (family : Family) (pool : Subnet family)
  | invalidLength
  | stillJoined (endpoint sandbox : String)
  | alreadyJoined (endpoint sandbox : String)
  | notJoined (endpoint : String)
deriving DecidableEq

namespace Refusal

def kind : Refusal → FailureKind
  | networkUnknown _ | endpointUnknown .. => .notFound
  | networkExists _ | networkInUse .. | endpointExists .. | stillJoined ..
  | alreadyJoined .. | notJoined _ => .forbidden
  | outsidePools .. | notAHost .. | addressInUse .. => .badRequest
  | poolExhausted .. => .noService
  | invalidLength => .internal

def message : Refusal → String
  | networkExists network => "network " ++ network ++ " already exists"
  | networkUnknown network => "network " ++ network ++ " not found"
  | networkInUse network endpoints =>
      "network " ++ network ++ " has " ++ String.ofList (encodeNumeral 10 endpoints) ++
        " endpoints"
  | endpointExists network endpoint =>
      "endpoint " ++ endpoint ++ " already exists in network " ++ network
  | endpointUnknown network endpoint =>
      "endpoint " ++ endpoint ++ " not found in network " ++ network
  | outsidePools family requested =>
      family.name ++ " address " ++ requested.render ++
        " is not within any pool of the network"
  | notAHost family address pool =>
      family.name ++ " address " ++ address.render ++ " is not a host address of " ++
        pool.render
  | addressInUse family address =>
      family.name ++ " address " ++ address.render ++ " is already in use"
  | poolExhausted family pool =>
      "no " ++ family.name ++ " addresses available in " ++ pool.render
  | invalidLength => "invalid IP prefix length"
  | stillJoined endpoint sandbox =>
      "endpoint " ++ endpoint ++ " is still joined to sandbox " ++ sandbox
  | alreadyJoined endpoint sandbox =>
      "endpoint " ++ endpoint ++ " is already joined to sandbox " ++ sandbox
  | notJoined endpoint => "endpoint " ++ endpoint ++ " is not joined"

def failure (refusal : Refusal) : Failure := ⟨some refusal.kind, refusal.message⟩

end Refusal

end NetworkPlugin
