import NetworkPlugin.Proofs.Past
import NetworkPlugin.Proofs.Records
import NetworkPlugin.Proofs.Registry.Lifecycle
import NetworkPlugin.Proofs.Wire.Printing

/-!
# Where control characters in records come from

Requests and responses are shown printably, but the message of a failure has names in it as
they were given: those of networks and endpoints, those of auxiliary addresses, and the keys of
sandboxes.  A record has no control character unless one of these has it.
-/

namespace NetworkPlugin

open Text

/-! ## Texts of addresses -/

theorem plain_encodeQuad (value : Nat) : Plain (encodeQuad value) :=
  plain_join_encodeNumeral (by omega) (by omega) (by decide) _

theorem plain_encodeGroups (groups : List Nat) : Plain (encodeGroups groups) :=
  plain_join_encodeNumeral (by omega) (by omega) (by decide) groups

theorem plain_encodeAddress (family : Family) (value : Nat) :
    Plain (encodeAddress family value) := by
  cases family with
  | v4 => exact plain_encodeQuad value
  | v6 =>
      unfold encodeAddress
      dsimp only
      split
      · simp [IsControl, plain_encodeQuad]
      · unfold encodeCompressed
        dsimp only
        split <;> simp [IsControl, plain_encodeGroups]

theorem Address.plain_render {family : Family} (address : Address family) :
    Plain address.render.toList := by
  simpa [render] using plain_encodeAddress family address.value

theorem Subnet.plain_render {family : Family} (subnet : Subnet family) :
    Plain subnet.render.toList := by
  have address := plain_encodeAddress family subnet.address.value
  have length := @plain_encodeNumeral 10 (by omega) (by omega) subnet.length
  simp [render, IsControl, address, length]

theorem Family.plain_name (family : Family) : Plain family.name.toList := by
  cases family <;> simp [name, IsControl]

/-! ## Messages of faults and refusals -/

/-- The names in the message of a fault that are not quoted. -/
def PoolFault.names : PoolFault → List String
  | pool _ | gateway _ => []
  | auxiliary name _ => [name]

theorem PoolFault.controlsFrom_message (fault : PoolFault) :
    ControlsFrom fault.names fault.message.toList := by
  -- unfolded before the cases, as an equation for each of them takes long to find
  unfold message
  cases fault with
  | pool text | gateway text => simp [names, IsControl, plain_quote]
  | auxiliary name text =>
      have own : ControlsFrom [name] name.toList := controlsFrom_of_mem (.head _)
      have quoted := ControlsFrom.of_plain (plain_quote text) [name]
      simp [names, IsControl, own, quoted]

theorem PoolListFault.controlsFrom_message (fault : PoolListFault) :
    ControlsFrom fault.fault.names fault.message.toList := by
  have index := ControlsFrom.of_plain
    (@plain_encodeNumeral 10 (by omega) (by omega) fault.index) fault.fault.names
  simp [message, IsControl, index, fault.fault.controlsFrom_message]

theorem InterfaceFault.plain_message (fault : InterfaceFault) : Plain fault.message.toList := by
  unfold message
  cases fault with
  | hardware text => simp [IsControl, plain_quote]
  | address family text => simp [IsControl, plain_quote, family.plain_name]

def Refusal.names : Refusal → List String
  | networkExists network | networkUnknown network | networkInUse network _ => [network]
  | endpointExists network endpoint | endpointUnknown network endpoint => [network, endpoint]
  | stillJoined endpoint sandbox | alreadyJoined endpoint sandbox => [endpoint, sandbox]
  | notJoined endpoint => [endpoint]
  | outsidePools .. | notAHost .. | addressInUse .. | poolExhausted .. | invalidLength => []

theorem Refusal.controlsFrom_message (refusal : Refusal) :
    ControlsFrom refusal.names refusal.message.toList := by
  have own {sources : List String} {source : String} (member : source ∈ sources) :
      ControlsFrom sources source.toList := controlsFrom_of_mem member
  cases refusal with
  | networkExists | networkUnknown | endpointExists | endpointUnknown | stillJoined
  | alreadyJoined | notJoined => simp [message, names, IsControl, own]
  | networkInUse network endpoints =>
      have count := ControlsFrom.of_plain
        (@plain_encodeNumeral 10 (by omega) (by omega) endpoints) [network]
      simp [message, names, IsControl, own, count]
  | outsidePools family requested | poolExhausted family requested =>
      simp [message, names, IsControl, family.plain_name, requested.plain_render]
  | notAHost family address pool =>
      simp [message, names, IsControl, family.plain_name, address.plain_render,
        pool.plain_render]
  | addressInUse family address =>
      simp [message, names, IsControl, family.plain_name, address.plain_render]
  | invalidLength => simp [message, names, IsControl]

/-! ## Names in requests -/

def PoolEntry.names (entry : PoolEntry) : List String := entry.auxiliary.keys

def Request.names : Request → List String
  | createNetwork arguments =>
      arguments.network :: (arguments.ipv4 ++ arguments.ipv6).flatMap PoolEntry.names
  | deleteNetwork arguments => [arguments.network]
  | createEndpoint arguments => [arguments.network, arguments.endpoint]
  | deleteEndpoint arguments | endpointInfo arguments | leave arguments =>
      [arguments.network, arguments.endpoint]
  | join arguments => [arguments.network, arguments.endpoint]
  | _ => []

def Request.sandbox? : Request → Option String
  | join arguments => some arguments.sandbox
  | _ => none

def Past.sandboxes (past : Past) : List String := done Request.sandbox? past

theorem Asks.network_mem {request : Request} {call : Call} {respond : call.Reply → Response}
    (asks : Asks request call respond) : call.network ∈ request.names := by
  cases asks <;> exact .head _

theorem Asks.endpoint_mem {request : Request} {call : Call} {respond : call.Reply → Response}
    (asks : Asks request call respond) {endpoint : String}
    (known : call.knownEndpoint? = some endpoint) : endpoint ∈ request.names := by
  cases asks <;> cases known <;> exact .tail _ (.head _)

/-! ## Names in faults -/

namespace Pool

theorem names_of_readAuxiliary {name text : String} {fault : PoolFault}
    (unread : readAuxiliary name text = .error fault) : fault.names = [name] := by
  unfold readAuxiliary at unread
  split at unread <;> cases unread
  rfl

theorem names_of_readGateway {text : String} {fault : PoolFault}
    (unread : readGateway text = .error fault) : fault.names = [] := by
  unfold readGateway readSubnet at unread
  split at unread
  · cases unread
  · split at unread <;> cases unread
    rfl

theorem names_of_ofEntry {entry : PoolEntry} {fault : PoolFault}
    (unread : ofEntry entry = .error fault) : fault.names ⊆ entry.names := by
  simp only [ofEntry, Except.bind_eq_error] at unread
  rcases unread with pool | ⟨subnet, -, gateway | ⟨gateway, -, auxiliary | ⟨read, -, made⟩⟩⟩
  · unfold readSubnet at pool
    split at pool <;> cases pool
    exact List.nil_subset _
  · rw [names_of_readGateway gateway]
    exact List.nil_subset _
  · obtain ⟨⟨name, text⟩, listed, unreadable⟩ := Except.exists_of_mapM_eq_error auxiliary
    have named : name ∈ entry.names := by
      rw [PoolEntry.names, ← Std.ExtTreeMap.map_fst_toList_eq_keys]
      exact List.mem_map_of_mem listed
    rw [names_of_readAuxiliary unreadable]
    exact List.cons_subset.mpr ⟨named, List.nil_subset _⟩
  · cases made

theorem names_of_ofEntriesFrom {entries : List PoolEntry} {index : Nat} {fault : PoolListFault}
    (unread : ofEntriesFrom index entries = .error fault) :
    fault.fault.names ⊆ entries.flatMap PoolEntry.names := by
  induction entries generalizing index with
  | nil => cases unread
  | cons entry entries ih =>
      rw [List.flatMap_cons]
      simp only [ofEntriesFrom, Except.bind_eq_error] at unread
      rcases unread with first | ⟨pool, -, rest | ⟨pools, -, made⟩⟩
      · obtain ⟨here, unreadable, rfl⟩ := Except.mapError_eq_error.mp first
        exact List.subset_append_of_subset_left _ (names_of_ofEntry unreadable)
      · exact List.subset_append_of_subset_right _ (ih rest)
      · cases made

end Pool

/-! ## Failures of requests -/

theorem controlsFrom_badRequest {sources : List String} {what message : String}
    (fixed : Plain what.toList) (controls : ControlsFrom sources message.toList) :
    ControlsFrom sources (badRequest what message).message.toList := by
  have fixedToo := ControlsFrom.of_plain fixed sources
  simp [badRequest, IsControl, fixedToo, controls]

theorem controlsFrom_of_readPools {family : Family} {entries : List PoolEntry}
    {failure : Failure} (unread : readPools family entries = .error failure) :
    ControlsFrom (entries.flatMap PoolEntry.names) failure.message.toList := by
  obtain ⟨fault, unreadable, rfl⟩ := Except.mapError_eq_error.mp unread
  refine controlsFrom_badRequest (by simp [IsControl, family.plain_name]) ?_
  exact fault.controlsFrom_message.mono (Pool.names_of_ofEntriesFrom unreadable)

theorem controlsFrom_of_readInterface {arguments : EndpointArguments} {failure : Failure}
    (unread : readInterface arguments = .error failure) (sources : List String) :
    ControlsFrom sources failure.message.toList := by
  obtain ⟨fault, -, rfl⟩ := Except.mapError_eq_error.mp unread
  exact controlsFrom_badRequest (by simp [IsControl]) (.of_plain fault.plain_message sources)

theorem FailsAtOnce.controlsFrom_message {request : Request} {failure : Failure}
    (fails : FailsAtOnce request failure) :
    ControlsFrom request.names failure.message.toList := by
  cases fails with
  | pools unread =>
      refine (controlsFrom_of_readPools unread).mono ?_
      exact List.subset_cons_of_subset _ (by simp [List.flatMap_append])
  | poolsV6 unread =>
      refine (controlsFrom_of_readPools unread).mono ?_
      exact List.subset_cons_of_subset _ (by simp [List.flatMap_append])
  | interface unread => exact controlsFrom_of_readInterface unread _
  | allocateNetwork | freeNetwork => simp [notImplemented, IsControl]

theorem Assignment.Denies.names_eq_nil {family : Family} {pools : List (Subnet family)}
    {used : List (Address family)} {requested : Option (Subnet family)} {refusal : Refusal}
    (denied : Denies pools used requested refusal) : refusal.names = [] := by
  cases denied <;> rfl

namespace Registry

variable {drawn : HardwareAddress} {registry : Registry}

/-! ## Sandboxes -/

def JoinedTo (sandboxes : List String) (registry : Registry) : Prop :=
  ∀ (names : String × String) (value : Endpoint) (sandbox : String),
    endpoint? registry names.1 names.2 = some value → value.sandbox = some sandbox →
      sandbox ∈ sandboxes

theorem JoinedTo.mono {sandboxes others : List String} (joined : JoinedTo sandboxes registry)
    (included : sandboxes ⊆ others) : JoinedTo others registry :=
  fun names value sandbox present here => included (joined names value sandbox present here)

theorem JoinedTo.of_same {sandboxes : List String} {other : Registry}
    (joined : JoinedTo sandboxes registry)
    (same : ∀ names : String × String,
      endpoint? other names.1 names.2 = endpoint? registry names.1 names.2) :
    JoinedTo sandboxes other :=
  fun names value sandbox present here =>
    joined names value sandbox ((same names).symm.trans present) here

theorem JoinedTo.putEndpoint {sandboxes : List String} {network endpoint : String}
    {owner : Network} {value : Endpoint} (joined : JoinedTo sandboxes registry)
    (stored : registry[network]? = some owner)
    (here : ∀ sandbox, value.sandbox = some sandbox → sandbox ∈ sandboxes) :
    JoinedTo sandboxes (registry.putEndpoint network endpoint owner value) := by
  intro names other sandbox present attached
  rw [endpoint?_putEndpoint stored] at present
  split at present
  · cases present
    exact here sandbox attached
  · exact joined names other sandbox present attached

theorem JoinedTo.dropEndpoint {sandboxes : List String} {network endpoint : String}
    {owner : Network} (joined : JoinedTo sandboxes registry)
    (stored : registry[network]? = some owner) :
    JoinedTo sandboxes (registry.dropEndpoint network endpoint owner) := by
  intro names other sandbox present attached
  rw [endpoint?_dropEndpoint stored] at present
  split at present
  · cases present
  · exact joined names other sandbox present attached

theorem Grants.joinedTo {sandboxes : List String} {request : Request} {call : Call}
    {respond : call.Reply → Response} {turn : Turn Registry call.Reply}
    (planned : request.plan = .ask call respond) (granted : Grants drawn registry call turn)
    (joined : JoinedTo sandboxes registry) :
    JoinedTo (sandboxes ++ request.sandbox?.toList) turn.state := by
  have kept : JoinedTo (sandboxes ++ request.sandbox?.toList) registry :=
    joined.mono (List.subset_append_left _ _)
  cases asks_of_plan planned with
  | createNetwork =>
      cases granted with
      | networkCreated absent =>
          exact kept.of_same fun names => endpoint?_insert_empty absent rfl _ _
  | deleteNetwork =>
      cases granted with
      | networkDeleted stored empty =>
          exact kept.of_same fun names => endpoint?_erase_empty stored empty _ _
  | createEndpoint =>
      cases granted with
      | endpointCreated stored absent made =>
          refine kept.putEndpoint stored fun sandbox attached => ?_
          rw [sandbox_of_newEndpoint made] at attached
          cases attached
  | deleteEndpoint =>
      cases granted with
      | endpointDeleted stored present idle => exact kept.dropEndpoint stored
  | endpointInfo =>
      cases granted with
      | endpointReported stored present => exact kept
  | join =>
      cases granted with
      | joined stored present idle =>
          refine kept.putEndpoint stored fun sandbox attached => ?_
          cases attached
          exact List.mem_append_right _ (.head _)
  | leave =>
      cases granted with
      | left stored present attached =>
          refine kept.putEndpoint stored fun sandbox still => ?_
          cases still

theorem run_joinedTo (inputs : List Input) :
    JoinedTo (Past.sandboxes (history ∅ inputs)) (run ∅ inputs) := by
  refine run_done Request.sandbox? (P := fun registry sandboxes => JoinedTo sandboxes registry)
    ?_ ?_ Grants.joinedTo inputs
  · intro names value sandbox present
    simp [endpoint?] at present
  · intro request unneeded
    cases request <;> first | rfl | cases unneeded

/-! ## Refused calls -/

theorem Refuses.names_subset {sandboxes : List String} {request : Request} {call : Call}
    {respond : call.Reply → Response} {refusal : Refusal}
    (asks : Asks request call respond) (refused : Refuses drawn registry call refusal)
    (joined : JoinedTo sandboxes registry) : refusal.names ⊆ request.names ++ sandboxes := by
  have network := asks.network_mem
  cases refused with
  | networkExists | networkUnknown | networkInUse =>
      exact List.cons_subset.mpr ⟨List.mem_append_left _ network, List.nil_subset _⟩
  | endpointExists =>
      cases asks
      exact List.subset_append_left _ _
  | notAssigned stored absent failed =>
      rcases Network.newEndpoint_eq_error failed with denied | denied <;>
        simp [denied.names_eq_nil]
  | endpointUnknown needed =>
      have endpoint := asks.endpoint_mem needed
      simp [Refusal.names, network, endpoint]
  | stillJoined stored present attached =>
      have endpoint := asks.endpoint_mem rfl
      have known := joined (_, _) _ _ ((endpoint?_of_some stored _).trans present) attached
      simp [Refusal.names, endpoint, known]
  | alreadyJoined stored present attached =>
      have endpoint := asks.endpoint_mem rfl
      have known := joined (_, _) _ _ ((endpoint?_of_some stored _).trans present) attached
      simp [Refusal.names, endpoint, known]
  | notJoined =>
      have endpoint := asks.endpoint_mem rfl
      simp [Refusal.names, endpoint]

theorem controlsFrom_of_failure {sandboxes : List String} {input : Input} {failure : Failure}
    (joined : JoinedTo sandboxes registry)
    (failed : (serve registry input).answer = .error failure) :
    ControlsFrom (input.request.names ++ sandboxes) failure.message.toList := by
  cases served registry input with
  | known result planned =>
      rw [serve_of_answer planned] at failed
      cases failed
      exact (failsAtOnce_of_plan planned).controlsFrom_message.mono (List.subset_append_left _ _)
  | granted call respond turn planned granted =>
      rw [serve_of_grants planned granted] at failed
      cases failed
  | refused call respond refusal planned refused =>
      rw [serve_of_refuses planned refused] at failed
      cases failed
      exact refusal.controlsFrom_message.mono
        (refused.names_subset (asks_of_plan planned) joined)

end Registry

/-! ## Messages of records -/

theorem Operation.plain_name (operation : Operation) : Plain operation.name.toList := by
  cases operation <;> simp [name, IsControl]

theorem Failure.plain_tag (failure : Failure) : Plain failure.tag.toList := by
  obtain ⟨kind, message⟩ := failure
  rcases kind with - | kind
  · simp [tag, tagWithoutKind, IsControl]
  · cases kind <;> simp [tag, FailureKind.tag, FailureKind.name, IsControl]

theorem Request.plain_shownArguments (request : Request) :
    Plain (shownArguments request.snapshot?).toList := by
  cases shown : request.snapshot? with
  | none => simp [shownArguments]
  | some snapshot => exact (Request.printable_snapshot shown).plain_render

/-- All that is told of an answer in messages is plain, except that the message of a failure has
the control characters of some names. -/
inductive Tells (names : List String) : Except Failure Response → List Event → Prop
  | success {response events} (plain : ∀ event ∈ events, Plain event.message.toList) :
      Tells names (.ok response) events
  | failure {failure told level fields} (plain : Plain told.toList)
      (controls : ControlsFrom names failure.message.toList) :
      Tells names (.error failure) [⟨level, told ++ failure.message, fields⟩]

theorem Tells.plain {names : List String} {answer : Except Failure Response}
    {events : List Event} (tells : Tells names answer events)
    (each : ∀ name ∈ names, Plain name.toList) : ∀ event ∈ events, Plain event.message.toList := by
  cases tells with
  | success plain => exact plain
  | failure plain controls =>
      have message := controls.plain each
      simp [plain, message]

theorem Request.tells_event (request : Request) {names : List String}
    {answer : Except Failure Response}
    (controls : ∀ failure, answer = .error failure →
      ControlsFrom names failure.message.toList) :
    Tells names answer [request.event answer] := by
  have name := request.operation.plain_name
  have arguments := request.plain_shownArguments
  have records := records_ofOperation request.operation.name request.snapshot? answer
  change Records _ _ _ (request.event answer) at records
  -- the event is named, so that the cases of its record can say what it is
  generalize request.event answer = event at records
  cases records with
  | plain silent =>
      refine .success (List.forall_mem_singleton.mpr ?_)
      simp [IsControl, name, arguments]
  | withResult shown =>
      have result := (Response.printable_snapshot shown).plain_render
      refine .success (List.forall_mem_singleton.mpr ?_)
      simp [IsControl, name, arguments, result]
  | @failure failure level ranks =>
      refine .failure ?_ (controls failure rfl)
      simp [IsControl, name, arguments, failure.plain_tag]

namespace Registry

variable {drawn : HardwareAddress} {registry : Registry}

theorem Grants.plain_events {call : Call} {turn : Turn Registry call.Reply}
    (granted : Grants drawn registry call turn) :
    ∀ event ∈ turn.events, Plain event.message.toList := by
  cases granted <;>
    simp [Turn.idle, Event.networkCreated, Event.networkDeleted, Event.endpointCreated,
      Event.endpointDeleted, Event.endpointJoined, Event.endpointLeft, IsControl]

theorem tells_serve {sandboxes : List String} (joined : JoinedTo sandboxes registry)
    (input : Input) :
    let turn := serve registry input
    Tells (input.request.names ++ sandboxes) turn.answer turn.events := by
  intro turn
  have record : Tells (input.request.names ++ sandboxes) turn.answer
      [input.request.event turn.answer] :=
    input.request.tells_event fun failure failed => controlsFrom_of_failure joined failed
  cases served registry input with
  | known result planned =>
      simp only [turn, serve_of_answer planned] at record ⊢
      exact record
  | granted call respond granting planned granted =>
      simp only [turn, serve_of_grants planned granted] at record ⊢
      cases record with
      | success plain =>
          exact .success (List.forall_mem_append.mpr ⟨granted.plain_events, plain⟩)
  | refused call respond refusal planned refused =>
      simp only [turn, serve_of_refuses planned refused] at record ⊢
      exact record

/-- Whatever is asked of networks in memory, no message has a control character but in the
words of a failure, and there only if a name has it that the request gave or that an endpoint
was joined to. -/
theorem control_characters_come_from_names (inputs : List Input) (input : Input) :
    let turn := serve (run ∅ inputs) input
    Tells (input.request.names ++ Past.sandboxes (history ∅ inputs)) turn.answer turn.events :=
  tells_serve (run_joinedTo inputs) input

/-- The name of a network that is not there is told as it was given. -/
theorem line_feed_in_name_is_told :
    ¬ ∀ (inputs : List Input) (input : Input), ∀ event ∈ (serve (run ∅ inputs) input).events,
      event.operation?.isSome = true → Plain event.message.toList := by
  intro always
  let input : Input := ⟨default, .deleteNetwork ⟨"a\nb"⟩⟩
  let failure : Failure := ⟨some .notFound, "network a\nb not found"⟩
  have refused : (serve ∅ input).events = [input.request.event (.error failure)] := rfl
  have recorded := always [] input (input.request.event (.error failure))
  change _ ∈ (serve ∅ input).events → _ at recorded
  rw [refused] at recorded
  have plain := plain_iff.mp (recorded (.head _) rfl) '\n'
  exact plain (by simp [input, failure, Request.event, Event.ofOperation, OperationRecord.of,
    Except.map]) (by decide)

/-! ## Sessions without control characters in names -/

theorem serve_joinedTo {sandboxes : List String} (joined : JoinedTo sandboxes registry)
    (input : Input) :
    JoinedTo (sandboxes ++ input.request.sandbox?.toList) (serve registry input).state := by
  have kept := joined.mono (List.subset_append_left sandboxes input.request.sandbox?.toList)
  cases served registry input with
  | known result planned =>
      rw [serve_of_answer planned]
      exact kept
  | granted call respond turn planned granted =>
      rw [serve_of_grants planned granted]
      exact granted.joinedTo planned joined
  | refused call respond refusal planned refused =>
      rw [serve_of_refuses planned refused]
      exact kept

/-- If the names in a session have no control characters, then no message has one, whatever the
other texts are. -/
theorem plain_turns {inputs : List Input}
    (plain : ∀ input ∈ inputs, ∀ name ∈ input.request.names ++ input.request.sandbox?.toList,
      Plain name.toList) :
    ∀ turn ∈ Session.turns serve ∅ inputs, ∀ event ∈ turn.events,
      Plain event.message.toList := by
  -- the sandboxes that endpoints may be joined to grow with every request
  have from_any : ∀ (registry : Registry) (sandboxes : List String),
      JoinedTo sandboxes registry → (∀ sandbox ∈ sandboxes, Plain sandbox.toList) →
      ∀ turn ∈ Session.turns serve registry inputs, ∀ event ∈ turn.events,
        Plain event.message.toList := by
    induction inputs with
    | nil => simp [Session.turns]
    | cons input inputs ih =>
        intro registry sandboxes joined plainSandboxes
        rw [List.forall_mem_cons] at plain
        obtain ⟨names, sandbox⟩ := List.forall_mem_append.mp plain.1
        refine List.forall_mem_cons.mpr ⟨?_, ?_⟩
        · exact (tells_serve joined input).plain
            (List.forall_mem_append.mpr ⟨names, plainSandboxes⟩)
        · exact ih plain.2 _ _ (serve_joinedTo joined input)
            (List.forall_mem_append.mpr ⟨plainSandboxes, sandbox⟩)
  exact from_any ∅ [] (run_joinedTo []) (by simp)

end Registry

end NetworkPlugin
