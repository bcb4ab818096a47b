import NetworkPlugin.Proofs.Session

/-!
# Failures leave no trace

A request that fails, or that only asks, leaves the registry as it was.  All such requests
can therefore be dropped from a session at once: the others are answered as before, in the
same states, and the session ends with the same registry.
-/

namespace NetworkPlugin

namespace Session

variable {State Input Answer : Type} {serve : State → Input → Turn State Answer}

def kept (keep : Input → Turn State Answer → Bool) (serve : State → Input → Turn State Answer)
    (state : State) (inputs : List Input) : List (Input × Turn State Answer) :=
  (inputs.zip (turns serve state inputs)).filter fun (input, turn) => keep input turn

theorem kept_cons (keep : Input → Turn State Answer → Bool) (state : State) (input : Input)
    (inputs : List Input) :
    kept keep serve state (input :: inputs) =
      if keep input (serve state input) then
        (input, serve state input) :: kept keep serve (serve state input).state inputs
      else kept keep serve (serve state input).state inputs := by
  unfold kept
  rw [turns, List.zip_cons_cons, List.filter_cons]

theorem turns_kept {keep : Input → Turn State Answer → Bool}
    (idle : ∀ state input, keep input (serve state input) = false →
      (serve state input).state = state) (state : State) (inputs : List Input) :
    turns serve state ((kept keep serve state inputs).map (·.1)) =
        (kept keep serve state inputs).map (·.2) ∧
      final serve state ((kept keep serve state inputs).map (·.1)) =
        final serve state inputs := by
  unfold final
  -- An input that is dropped leads to the state that it was given in.
  induction inputs generalizing state with
  | nil => exact ⟨rfl, rfl⟩
  | cons input inputs ih =>
      obtain ⟨others, ends⟩ := ih (serve state input).state
      rw [kept_cons, List.foldl_cons]
      split
      · refine ⟨?_, ends⟩
        rw [List.map_cons, List.map_cons, turns, others]
      · next dropped =>
          rw [Bool.not_eq_true] at dropped
          rw [idle state input dropped] at others ends ⊢
          exact ⟨others, ends⟩

end Session

def Operation.readsOnly : Operation → Bool
  | getCapabilities | endpointInfo | discoverNew | discoverDelete
  | programExternalConnectivity | revokeExternalConnectivity => true
  | createNetwork | allocateNetwork | deleteNetwork | freeNetwork | createEndpoint
  | deleteEndpoint | join | leave => false

namespace Registry

variable {drawn : HardwareAddress} {registry : Registry}

theorem Grants.unchanged {request : Request} {call : Call} {respond : call.Reply → Response}
    {turn : Turn Registry call.Reply} (planned : request.plan = .ask call respond)
    (granted : Grants drawn registry call turn) (reads : request.operation.readsOnly = true) :
    turn.state = registry := by
  cases asks_of_plan planned with
  | endpointInfo =>
      cases granted with
      | endpointReported stored present => rfl
  | createNetwork | deleteNetwork | createEndpoint | deleteEndpoint | join | leave => cases reads

theorem serve_unchanged {input : Input}
    (idle : (serve registry input).answer.isOk = false ∨
      input.request.operation.readsOnly = true) :
    (serve registry input).state = registry := by
  cases served registry input with
  | known result planned => rw [serve_of_answer planned]
  | granted call respond turn planned granted =>
      rw [serve_of_grants planned granted] at idle ⊢
      rcases idle with failed | reads
      · cases failed
      · exact granted.unchanged planned reads
  | refused call respond refusal planned refused => rw [serve_of_refuses planned refused]

def Input.lasts (input : Input) (turn : Turn Registry (Except Failure Response)) : Bool :=
  turn.answer.isOk && !input.request.operation.readsOnly

theorem serve_of_not_lasts (registry : Registry) (input : Input)
    (idle : input.lasts (serve registry input) = false) :
    (serve registry input).state = registry := by
  apply serve_unchanged
  unfold Input.lasts at idle
  rw [Bool.and_eq_false_iff, Bool.not_eq_false'] at idle
  exact idle

/-- Requests that fail or only ask have no effect, neither on the registry nor on any other
request of the session. -/
theorem failures_leave_no_trace (inputs : List Input) :
    (∀ input, (serve (run ∅ inputs) input).answer.isOk = false ∨
        input.request.operation.readsOnly = true →
      (serve (run ∅ inputs) input).state = run ∅ inputs) ∧
    Session.turns serve ∅ ((Session.kept Input.lasts serve ∅ inputs).map (·.1)) =
      (Session.kept Input.lasts serve ∅ inputs).map (·.2) ∧
    run ∅ ((Session.kept Input.lasts serve ∅ inputs).map (·.1)) = run ∅ inputs := by
  obtain ⟨others, ends⟩ := Session.turns_kept serve_of_not_lasts ∅ inputs
  exact ⟨fun _ idle => serve_unchanged idle, others, ends⟩

theorem second_endpoint_leaves_no_trace :
    (serve (run ∅ [.makeNetwork "blue" "10.0.0.0/31", .makeEndpoint "blue" "one"])
        (.makeEndpoint "blue" "two")).answer.isOk = false ∧
      (serve (run ∅ [.makeNetwork "blue" "10.0.0.0/31", .makeEndpoint "blue" "one"])
        (.makeEndpoint "blue" "two")).state =
      run ∅ [.makeNetwork "blue" "10.0.0.0/31", .makeEndpoint "blue" "one"] := by
  have failed : (serve (run ∅ [.makeNetwork "blue" "10.0.0.0/31", .makeEndpoint "blue" "one"])
      (.makeEndpoint "blue" "two")).answer.isOk = false := rfl
  exact ⟨failed, (failures_leave_no_trace _).1 _ (.inl failed)⟩

/-- The second endpoint finds no address, which costs the first one nothing. -/
example : ((Session.kept Input.lasts serve ∅
    [.makeNetwork "blue" "10.0.0.0/31", .makeEndpoint "blue" "one", .makeEndpoint "blue" "two",
      ⟨default, .leave ⟨"blue", "one"⟩⟩, ⟨default, .endpointInfo ⟨"blue", "one"⟩⟩,
      ⟨default, .deleteEndpoint ⟨"blue", "one"⟩⟩]).map (·.1.request.operation)) =
    [.createNetwork, .createEndpoint, .deleteEndpoint] := by
  rfl

end Registry

end NetworkPlugin
