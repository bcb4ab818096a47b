import NetworkPlugin.Call

/-!
# Scripts

An engine whose replies are fixed beforehand and which keeps the calls it got.
-/

namespace NetworkPlugin

structure Script where
  failure : Option Failure := none
  interface : Option Interface := none
  report : Dictionary String := ∅
  attachment : Attachment := {}

namespace Script

def reply (script : Script) : (call : Call) → call.Reply
  | .createNetwork .. => ()
  | .deleteNetwork .. => ()
  | .createEndpoint _ _ requested _ => script.interface.getD requested
  | .deleteEndpoint .. => ()
  | .endpointInfo .. => script.report
  | .join .. => script.attachment
  | .leave .. => ()

def engine (script : Script) : Engine (List Call) where
  handle calls call :=
    .idle (calls ++ [call]) <|
      match script.failure with
      | some failure => .error failure
      | none => .ok (script.reply call)

end Script

end NetworkPlugin
