import NetworkPlugin.Proofs.Session

/-!
# The past of a session

What can be told of a registry from the requests of a session and the answers to them.
Only requests that succeeded count, and of these only the ones that made a call, so that
what is told changes when a call is granted and at no other time.
-/

namespace NetworkPlugin

abbrev Past := List (Request × Except Failure Response)

namespace Past

/-! ## What was done -/

/-- What the requests that succeeded come to, in their order. -/
def done {Value : Type} (find? : Request → Option Value) (past : Past) : List Value :=
  past.filterMap fun (request, answer) => if answer.isOk then find? request else none

theorem done_cons {Value : Type} (find? : Request → Option Value)
    (entry : Request × Except Failure Response) (past : Past) :
    done find? (entry :: past) =
      (if entry.2.isOk then find? entry.1 else none).toList ++ done find? past := by
  unfold done
  rw [List.filterMap_cons]
  split <;> next found => simp [found]

theorem done_append {Value : Type} (find? : Request → Option Value) (past : Past)
    (entry : Request × Except Failure Response) :
    done find? (past ++ [entry]) =
      done find? past ++ (if entry.2.isOk then find? entry.1 else none).toList := by
  rw [done, List.filterMap_append, ← done]
  congr 1

/-! ## Networks -/

def networkMade? (name : String) (entry : Request × Except Failure Response) :
    Option (NetworkArguments Json) :=
  match entry.1 with
  | .createNetwork arguments =>
      if arguments.network = name ∧ entry.2.isOk = true then some arguments else none
  | _ => none

def lastNetwork? (name : String) (past : Past) : Option (NetworkArguments Json) :=
  (past.filterMap (networkMade? name)).getLast?

theorem networkMade?_of_fails (name : String) (request : Request)
    {answer : Except Failure Response} (failed : answer.isOk = false) :
    networkMade? name (request, answer) = none := by
  unfold networkMade?
  split <;> simp [failed]

theorem networkMade?_of_answer (name : String) {request : Request}
    {answer : Except Failure Response} (planned : request.plan = .answer answer) :
    networkMade? name (request, answer) = none := by
  cases request with
  | createNetwork arguments =>
      apply networkMade?_of_fails
      simp only [Request.plan] at planned
      split at planned <;> cases planned <;> rfl
  | _ => rfl

theorem lastNetwork?_append (name : String) (past : Past)
    (entry : Request × Except Failure Response) :
    lastNetwork? name (past ++ [entry]) =
      (networkMade? name entry).or (lastNetwork? name past) := by
  unfold lastNetwork?
  cases made : networkMade? name entry with
  | none => simp [List.filterMap_append, made]
  | some arguments => simp [List.filterMap_append, made]

end Past

/-! ## Requests that make no call -/

def Request.needsEngine : Request → Bool
  | createNetwork _ | deleteNetwork _ | createEndpoint _ | deleteEndpoint _ | endpointInfo _
  | join _ | leave _ => true
  | _ => false

theorem Request.needsEngine_of_answer {request : Request} {response : Response}
    (planned : request.plan = .answer (.ok response)) : request.needsEngine = false := by
  cases request with
  | createNetwork arguments | createEndpoint arguments =>
      simp only [plan] at planned
      split at planned <;> cases planned
  | deleteNetwork | deleteEndpoint | endpointInfo | join | leave => cases planned
  | _ => rfl

namespace Registry

/-- What every granted call keeps, said of the registry and of what was done so far, holds
after every session. -/
theorem run_done {Value : Type} (find? : Request → Option Value)
    {P : Registry → List Value → Prop} (start : P ∅ [])
    (silent : ∀ request, request.needsEngine = false → find? request = none)
    (step : ∀ {drawn registry request call respond} {turn : Turn Registry call.Reply} {found},
      request.plan = .ask call respond → Grants drawn registry call turn → P registry found →
        P turn.state (found ++ (find? request).toList))
    (inputs : List Input) : P (run ∅ inputs) (Past.done find? (history ∅ inputs)) := by
  refine run_induction (P := fun registry past => P registry (Past.done find? past)) start ?_
    inputs
  intro registry past input holds
  rw [Past.done_append]
  cases served registry input with
  | known result planned =>
      rw [serve_of_answer planned]
      cases result with
      | error failure => simpa [Except.isOk, Except.toBool] using holds
      | ok response =>
          have unneeded := Request.needsEngine_of_answer planned
          simpa [silent _ unneeded] using holds
  | granted call respond turn planned granted =>
      rw [serve_of_grants planned granted]
      exact step planned granted holds
  | refused call respond refusal planned refused =>
      rw [serve_of_refuses planned refused]
      simpa [Except.isOk, Except.toBool] using holds

end Registry

end NetworkPlugin
