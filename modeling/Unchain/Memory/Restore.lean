import Unchain.Memory.Runtime

/-!
Which messages a restored run starts from (`memory/ownership.py`, the restoring half of
`memory/checkpoint_state.py`).

The session owns the messages it stored: a fresh run passes only new ones. A checkpoint is merged
with them, its instructions first, then its conversation, then the new conversation.
-/

namespace Unchain.Memory

open Lib Lib.Effect Interaction Python

/-! ### Ownership of the history -/

/-- `value in names` for a set of strings, which hashes the value. -/
def inNames (names : List String) : Value → Except PyError Bool
  | .str s => .ok (names.contains s)
  | .list _ => .error (.typeError "unhashable type: 'list'")
  | .dict _ => .error (.typeError "unhashable type: 'dict'")
  | _ => .ok false

/-- `_non_system_messages`. -/
def nonSystemMessages (messages : List Value) : List Value :=
  messages.filter fun message => isDict message && !(message.get "role").eqPy (.str "system")

/-- `any(... for block in content)`. -/
def anyToolBlock : List Value → Except PyError Bool
  | [] => .ok false
  | block :: blocks =>
    if isDict block then do
      let tool ← inNames ["tool_use", "tool_result"] (block.get "type")
      if tool then return true else anyToolBlock blocks
    else anyToolBlock blocks

/-- `_is_runtime_generated_message`. -/
def isRuntimeGeneratedMessage (message : Value) : Except PyError Bool := do
  let role ← inNames ["assistant", "tool"] (message.get "role")
  if role then return true
  else do
    let kind ← inNames ["function_call", "function_call_output", "tool_call", "tool_result"]
      (message.get "type")
    if kind then return true
    else
      match message.get "content" with
      | .list blocks => anyToolBlock blocks
      | _ => return false

def uptoLastGenerated : List Value → Except PyError (List Value)
  | [] => .ok []
  | message :: messages => do
    let generated ← isRuntimeGeneratedMessage message
    let rest ← uptoLastGenerated messages
    return if generated || !rest.isEmpty then message :: rest else []

/-- `_stable_persisted_dialog_prefix`. -/
def stablePersistedDialogPrefix (history : List Value) : Except PyError (List Value) :=
  uptoLastGenerated (nonSystemMessages history)

/-- `SessionHistoryOwnershipError`. -/
def sessionHistoryOwnershipError (message : String) : PyError :=
  .raised "SessionHistoryOwnershipError" message

/-- `ensure_session_delta_input`. -/
def ensureSessionDeltaInput (history incoming : List Value) : Except PyError Unit := do
  let persistedDialog ← stablePersistedDialogPrefix history
  let incomingDialog := nonSystemMessages incoming
  raiseIf (!persistedDialog.isEmpty && decide (persistedDialog.length ≤ incomingDialog.length)
      && Value.eqItems (incomingDialog.take persistedDialog.length) persistedDialog)
    (sessionHistoryOwnershipError ("session history ownership conflict: session memory already owns "
      ++ "persisted conversation history; pass only new messages for this turn instead of "
      ++ "replaying the stored transcript"))

/-- `ensure_no_external_provider_history`. Only ASCII letters have the letters of `openai` as their
lower case. -/
def ensureNoExternalProviderHistory (provider : String) (previousResponseId : Option String) :
    Except PyError Unit :=
  raiseIf ((strip provider).toLower == "openai" && !(strip (previousResponseId.getD "")).isEmpty)
    (sessionHistoryOwnershipError ("session history ownership conflict: previous_response_id cannot "
      ++ "be combined with session-backed memory on a fresh OpenAI run"))

/-! ### Restoring a checkpoint -/

section Restore

variable (host : InteractionHost)

/-- What a checkpoint names and a run names, when both name something. -/
def ensureSame (what expected actual : String) : Except PyError Unit :=
  raiseIf (!expected.isEmpty && !actual.isEmpty && expected ≠ actual)
    (checkpointCompatibilityError ("execution checkpoint " ++ what ++ " mismatch: expected "
      ++ host.repr (.str expected) ++ ", got " ++ host.repr (.str actual)))

variable (checkpoint : Value)

/-- `str(checkpoint.get(key) or "")`. -/
def checkpointText (key : String) : String :=
  ((checkpoint.get key).or (.str "")).toStr host.display

/-- `ensure_checkpoint_compatible`. -/
def ensureCheckpointCompatible (sessionId provider model : String) : Except PyError Unit := do
  raiseIf (!(checkpoint.get "session_id").eqPy (.str sessionId))
    (checkpointCompatibilityError "execution checkpoint belongs to a different session")
  ensureSame host "provider" (checkpointText host checkpoint "provider") provider
  ensureSame host "model" (checkpointText host checkpoint "model") model

/-- `ExecutionCheckpointReplayUnavailableError`. -/
def checkpointReplayUnavailableError (message : String) : PyError :=
  .raised "ExecutionCheckpointReplayUnavailableError" message

/-- Why a replay frame is not complete, as the end of a message. -/
def incompleteSuffix (replayFrame : Value) : String :=
  let reason := if isDict replayFrame
    then ((replayFrame.get "incomplete_reason").or (.str "")).toStr host.display else ""
  if reason.isEmpty then "" else ": " ++ reason

/-- `ensure_checkpoint_replayable`. -/
def ensureCheckpointReplayable : Except PyError Unit :=
  let replayFrame := checkpoint.get "replay_frame"
  raiseIf (!isDict replayFrame || replayFrame.get "complete" ≠ .bool true)
    (checkpointReplayUnavailableError
      ("execution checkpoint does not contain a complete provider replay frame"
        ++ incompleteSuffix host replayFrame))

/-- `checkpoint.get("transcript") or []` of a checkpoint that was validated. -/
def transcriptOf : List Value := (checkpoint.get "transcript").items

/-- `restore_fresh_checkpoint_messages`. -/
def restoreFreshCheckpointMessages (incoming : List Value) : Except PyError (List Value) := do
  let awaiting ← inNames ["awaiting_human_input", "awaiting_interaction"] (checkpoint.get "status")
  raiseIf (awaiting || hasInteractionRef checkpoint)
    (checkpointResumeRequiredError ("session is awaiting a durable interaction; resume the persisted "
      ++ "continuation instead of starting a fresh run"))
  ensureCheckpointReplayable host checkpoint
  ensureSessionDeltaInput (transcriptOf checkpoint) incoming
  return transcriptOf checkpoint

/-- `message.get("role") in {"system", "developer"}`. -/
def isPrompt (message : Value) : Except PyError Bool :=
  if isDict message then inNames ["system", "developer"] (message.get "role")
  else .error (.attributeError "object has no attribute 'get'")

/-- `split`: the instructions of a list and its conversation. -/
def splitMessages : List Value → Except PyError (List Value × List Value)
  | [] => .ok ([], [])
  | message :: messages => do
    let prompt ← isPrompt message
    let (systems, conversation) ← splitMessages messages
    return if prompt then (message :: systems, conversation)
      else (systems, message :: conversation)

/-- `prompt_projection`. -/
def promptProjection (messages : List Value) : List Value :=
  messages.map fun message =>
    .dict [("role", message.get "role"), ("content", message.get "content")]

/-- The instructions are those of the checkpoint, or the first of them. -/
def promptsMatch (checkpointSystems incomingSystems : List Value) : Bool :=
  let expected := promptProjection checkpointSystems
  let actual := promptProjection incomingSystems
  Value.eqItems actual expected
    || match actual, expected with
      | [single], leading :: _ => single.eqPy leading
      | _, _ => false

/-- `merge_checkpoint_transcript_with_incoming`. -/
def mergeCheckpointTranscriptWithIncoming (checkpointMessages incomingMessages : List Value) :
    Except PyError (List Value) := do
  let (checkpointSystems, checkpointConversation) ← splitMessages checkpointMessages
  let (incomingSystems, incomingConversation) ← splitMessages incomingMessages
  raiseIf (!incomingSystems.isEmpty && !promptsMatch checkpointSystems incomingSystems)
    (checkpointCompatibilityError ("incoming system/developer instructions do not match the persisted "
      ++ "execution checkpoint"))
  return checkpointSystems ++ checkpointConversation ++ incomingConversation

def isResumable : Except PyError Bool :=
  let status := checkpoint.get "status"
  if hasInteractionRef checkpoint then
    (inNames ["awaiting_human_input", "awaiting_interaction", "max_iterations"] status).map
      (status.eqPy (.str "awaiting_human_input") || ·)
  else .ok (status.eqPy (.str "awaiting_human_input"))

/-- `_json_safe(a) != _json_safe(b)`. -/
def jsonDiffers (a b : Value) : Except PyError Bool := do
  let left ← jsonSafe host.display a
  let right ← jsonSafe host.display b
  return !left.eqPy right

def continuationDiffers : Option Value → Except PyError Bool
  | none => .ok true
  | some continuation => jsonDiffers host continuation (checkpoint.get "continuation")

/-- `restore_resume_checkpoint_messages`. -/
def restoreResumeCheckpointMessages (conversation : List Value) (continuation : Option Value) :
    Except PyError (List Value) := do
  let resumable ← isResumable checkpoint
  raiseIf (!resumable)
    (checkpointCompatibilityError "interaction resume requires a durable interaction checkpoint")
  ensureCheckpointReplayable host checkpoint
  let moved ← jsonDiffers host (.list conversation) (.list (transcriptOf checkpoint))
  raiseIf moved
    (checkpointCompatibilityError
      "resume conversation does not match the persisted execution checkpoint")
  let other ← continuationDiffers host checkpoint continuation
  raiseIf other
    (checkpointCompatibilityError
      "resume continuation does not match the persisted execution checkpoint")
  return transcriptOf checkpoint

end Restore

end Unchain.Memory
