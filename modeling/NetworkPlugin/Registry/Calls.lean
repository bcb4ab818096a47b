import NetworkPlugin.Registry.Basic

/-!
# Calls on networks in memory

A call either is refused or leads to a turn, so that a refusal cannot leave anything
behind.  A hardware address that has to be made up is drawn by the caller.
-/

namespace NetworkPlugin

open Text

/-! ## Events -/

namespace Event

def optionsField (options : Options) : String × String :=
  ("options", (Snapshot.texts options.keys).render)

def countField (name : String) (count : Nat) : String × String :=
  (name, String.ofList (encodeNumeral 10 count))

def textField (name : String) (value : Option String) : String × String :=
  (name, (Snapshot.option (value.map .text)).render)

def networkCreated (network : String) (options : Options) (ipv4 ipv6 : List Pool) :
    List Event :=
  [⟨.debug, "Network options", [("network_id", network), optionsField options]⟩,
    ⟨.info, "Network created",
      [("network_id", network), countField "ipv4_pools" ipv4.length,
        countField "ipv6_pools" ipv6.length]⟩]

def networkDeleted (network : String) : Event :=
  ⟨.info, "Network deleted", [("network_id", network)]⟩

def endpointCreated (network endpoint : String) (options : Options) (value : Endpoint) :
    List Event :=
  [⟨.debug, "Endpoint options", [("endpoint_id", endpoint), optionsField options]⟩,
    ⟨.info, "Endpoint created",
      [("network_id", network), ("endpoint_id", endpoint),
        textField "mac" (some value.hardware.render),
        textField "ipv4" (value.ipv4.map Subnet.render),
        textField "ipv6" (value.ipv6.map Subnet.render)]⟩]

def endpointDeleted (network endpoint : String) : Event :=
  ⟨.info, "Endpoint deleted", [("network_id", network), ("endpoint_id", endpoint)]⟩

def endpointJoined (network endpoint sandbox : String) : Event :=
  ⟨.info, "Endpoint joined",
    [("network_id", network), ("endpoint_id", endpoint), ("sandbox_key", sandbox)]⟩

def endpointLeft (network endpoint : String) : Event :=
  ⟨.info, "Endpoint left", [("network_id", network), ("endpoint_id", endpoint)]⟩

end Event

namespace Registry

/-! ## Networks -/

def createNetwork (registry : Registry) (network : String) (options : Options)
    (ipv4 ipv6 : List Pool) : Except Refusal (Turn Registry Unit) :=
  if registry.contains network then .error (.networkExists network)
  else
    .ok
      { answer := ()
        events := Event.networkCreated network options ipv4 ipv6
        state := registry.insert network { ipv4, ipv6 } }

def deleteNetwork (registry : Registry) (network : String) :
    Except Refusal (Turn Registry Unit) := do
  let found ← registry.find network
  if found.endpoints.isEmpty then
    .ok
      { answer := ()
        events := [.networkDeleted network]
        state := registry.erase network }
  else .error (.networkInUse network found.endpoints.size)

/-! ## Endpoints -/

def createEndpoint (drawn : HardwareAddress) (registry : Registry)
    (network endpoint : String) (requested : Interface) (options : Options) :
    Except Refusal (Turn Registry Interface) := do
  let owner ← registry.find network
  if owner.endpoints.contains endpoint then .error (.endpointExists network endpoint)
  else
    let value ← owner.newEndpoint requested drawn
    .ok
      { answer := value.assignedPart requested
        events := Event.endpointCreated network endpoint options value
        state := registry.putEndpoint network endpoint owner value }

def deleteEndpoint (registry : Registry) (network endpoint : String) :
    Except Refusal (Turn Registry Unit) := do
  let (owner, found) ← registry.findEndpoint network endpoint
  match found.sandbox with
  | some sandbox => .error (.stillJoined endpoint sandbox)
  | none =>
      .ok
        { answer := ()
          events := [.endpointDeleted network endpoint]
          state := registry.dropEndpoint network endpoint owner }

def endpointInfo (registry : Registry) (network endpoint : String) :
    Except Refusal (Turn Registry (Dictionary String)) := do
  let (_, found) ← registry.findEndpoint network endpoint
  .ok (.idle registry (found.report network endpoint))

def join (registry : Registry) (network endpoint sandbox : String) :
    Except Refusal (Turn Registry Attachment) := do
  let (owner, found) ← registry.findEndpoint network endpoint
  match found.sandbox with
  | some sandbox => .error (.alreadyJoined endpoint sandbox)
  | none =>
      .ok
        { answer := owner.attachment endpoint
          events := [.endpointJoined network endpoint sandbox]
          state :=
            registry.putEndpoint network endpoint owner
              { found with sandbox := some sandbox } }

def leave (registry : Registry) (network endpoint : String) :
    Except Refusal (Turn Registry Unit) := do
  let (owner, found) ← registry.findEndpoint network endpoint
  match found.sandbox with
  | none => .error (.notJoined endpoint)
  | some _ =>
      .ok
        { answer := ()
          events := [.endpointLeft network endpoint]
          state := registry.putEndpoint network endpoint owner { found with sandbox := none } }

/-! ## The engine -/

def step (drawn : HardwareAddress) (registry : Registry) :
    (call : Call) → Except Refusal (Turn Registry call.Reply)
  | .createNetwork network options ipv4 ipv6 =>
      createNetwork registry network options ipv4 ipv6
  | .deleteNetwork network => deleteNetwork registry network
  | .createEndpoint network endpoint requested options =>
      createEndpoint drawn registry network endpoint requested options
  | .deleteEndpoint network endpoint => deleteEndpoint registry network endpoint
  | .endpointInfo network endpoint => endpointInfo registry network endpoint
  | .join network endpoint sandbox _ => join registry network endpoint sandbox
  | .leave network endpoint => leave registry network endpoint

/-- The engine of one call, for which a hardware address has been drawn. -/
def engine (drawn : HardwareAddress) : Engine Registry where
  handle registry call :=
    match step drawn registry call with
    | .ok turn => turn.map .ok
    | .error refusal => .idle registry (.error refusal.failure)

end Registry

end NetworkPlugin
