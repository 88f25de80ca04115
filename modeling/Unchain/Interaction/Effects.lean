import Unchain.Interaction.Durable
import Unchain.Interaction.HumanInput
import Unchain.Kernel.State

/-!
Continuations of suspended runs (`interaction/effects.py`), and their way through JSON.

The replay frame of a run is private: a continuation carries a handle of the process to it, and of
the handle only its id and scope are written.
-/

namespace Unchain.Interaction

open Lib Lib.Effect Python Kernel

/-! ### Replay handles (`kernel/replay_handle.py`) -/

/-- `ProviderReplayHandle`, a dictionary with a hidden frame. -/
def replayHandleClass : ClassName := .other "ProviderReplayHandle"

/-- `store_provider_replay_handle`. -/
def storeProviderReplayHandle (handleId : String) : Option Value → Value
  | none => .none
  | some frame =>
    .obj replayHandleClass
      [("id", .str handleId), ("scope", .str "process"), ("_frame", frame)]

/-- `load_provider_replay_handle`. -/
def loadProviderReplayHandle : Value → Option Value
  | .obj cls attrs => if cls = replayHandleClass then Assoc.get "_frame" attrs else none
  | _ => none

def handleEntries (attrs : Dict) : Dict :=
  attrs.filter fun entry => entry.1 = "id" || entry.1 = "scope"

/-! ### JSON -/

/-- What `json.dumps` does by default with a value that strict JSON does not have. -/
def dumpsFallback : Fallback
  | .float (.inf negative) => .ok (.num (if negative then "-Infinity" else "Infinity").toList)
  | .float _ => .ok (.num "NaN".toList)
  | .obj cls attrs =>
    if cls = replayHandleClass then
      .ok (.obj ((handleEntries attrs).map fun entry =>
        (entry.1.toList, Json.str (entry.2.toStr fun _ => "").toList)))
    else .error (.typeError "Object is not JSON serializable")
  | _ => .error (.typeError "Object is not JSON serializable")

/-- `json.loads(json.dumps(value))`. -/
def throughJson (display : Display) (parseFloat : List Char → PyFloat) (v : Value) :
    Except PyError Value :=
  (v.toJson display dumpsFallback).map (Value.ofJson parseFloat)

/-- The value is one of the types that `_ensure_json_safe` keeps inside a container. -/
def isJsonLike : Value → Bool
  | .obj cls _ => cls = replayHandleClass
  | _ => true

mutual

/-- `_ensure_json_safe`. -/
def ensureJsonSafe (display : Display) : Value → Value
  | .dict es => .dict (ensureEntries display es)
  | .list items => .list (ensureItems display items)
  | .obj cls attrs =>
    if cls = replayHandleClass then .dict (handleEntries attrs)
    else .str (display (.obj cls attrs))
  | v => v

def ensureItems (display : Display) : List Value → List Value
  | [] => []
  | v :: vs =>
    if isJsonLike v then ensureJsonSafe display v :: ensureItems display vs
    else ensureItems display vs

def ensureEntries (display : Display) : List (String × Value) → List (String × Value)
  | [] => []
  | (key, v) :: es =>
    if isJsonLike v then (key, ensureJsonSafe display v) :: ensureEntries display es
    else ensureEntries display es

end

/-! ### Continuations -/

/-- `getattr(value, name, default)`. -/
def getattrOr (v : Value) (name : String) (default : Value) : Value :=
  match getattr v name with
  | .ok x => x
  | .error _ => default

/-- `_serialize_response_format`. -/
def serializeResponseFormat (responseFormat : Value) : Value :=
  let name := getattrOr responseFormat "name" .none
  let schema := getattrOr responseFormat "schema" .none
  let required := getattrOr responseFormat "required" .none
  if !name.isStr || !schema.isDict then .none
  else .dict [("name", name), ("schema", schema),
    ("required", if required.isList then required else .list [])]

/-- `int(value or 0)`. -/
def intOrZero (v : Value) : Except PyError Value := (v.or (.int 0)).toInt.map .int

def carriedCounters : List String :=
  ["consumed_tokens", "input_tokens", "output_tokens", "last_turn_tokens",
    "last_turn_input_tokens", "last_turn_output_tokens"]

def readCounter (tokenState : Value) (name : String) : Except PyError (String × Value) := do
  let n ← getattr tokenState name
  let n ← intOrZero n
  return (name, n)

def suspendedEntries (s : RunState) (handle : Value) : Except PyError Dict := do
  let provider := s.field .providerState
  let session := s.field .sessionState
  let previousResponseId ← getattr provider "previous_response_id"
  let useChain ← getattr provider "use_previous_response_chain"
  let sessionId ← getattr session "session_id"
  let memoryNamespace ← getattr session "memory_namespace"
  let window ← getattr provider "max_context_window_tokens"
  let window ← intOrZero window
  let counters ← carriedCounters.mapM (readCounter (s.field .tokenState))
  return [("previous_response_id", previousResponseId),
    ("use_openai_previous_response_chain", .bool useChain.truthy),
    ("provider_replay_handle", handle), ("session_id", sessionId),
    ("memory_namespace", memoryNamespace), ("max_context_window_tokens", window)]
    ++ counters ++ [("workspace_change_state", s.field .workspaceChangeState)]

def exposureEntries (display : Display) (toolExposurePlan : Option Value) : Dict :=
  (toolExposurePlan.map fun plan => ("tool_exposure_plan", ensureJsonSafe display plan)).toList

def textOrNone : Option String → Value
  | some s => .str s
  | none => .none

/-- What a builder is given besides what it suspends for. -/
structure Suspension where
  payload : Value
  responseFormat : Value
  maxIterations : Int
  state : RunState
  runId : Option String
  toolExposurePlan : Option Value
  /-- The id of the replay handle, if one is made. -/
  handleId : String

section Builders

variable (host : InteractionHost) (x : Suspension)

def Suspension.handle : Except PyError Value := do
  let frame ← currentProviderReplayFrame (x.state.field .componentState)
  return storeProviderReplayHandle x.handleId frame

/-- The entries from `provider` to `max_iterations` that the builders share. -/
def Suspension.modelEntries : Except PyError Dict := do
  let provider ← getattr (x.state.field .providerState) "provider"
  let model ← getattr (x.state.field .providerState) "model"
  return [("run_id", textOrNone x.runId), ("provider", provider), ("model", model),
    ("payload", ensureJsonSafe host.display x.payload),
    ("response_format", ensureJsonSafe host.display (serializeResponseFormat x.responseFormat)),
    ("context_version_id", x.state.field .latestVersionId),
    ("max_iterations", .int x.maxIterations)]

/-- `build_human_input_continuation`. -/
def buildHumanInputContinuation (request : HumanInputRequest) (nextIteration : Int)
    (interactionRequest : Option (Given InteractionRequest)) : Except PyError Dict := do
  let handle ← x.handle
  let durable ← interactionRequest.mapM (InteractionRequest.fromDict host)
  let model ← x.modelEntries host
  let suspended ← suspendedEntries x.state handle
  return [("type", .str "human_input_continuation"), ("kind", .str request.kind),
    ("request_id", .str request.requestId),
    ("interaction_id", textOrNone (durable.map InteractionRequest.interactionId)),
    ("call_id", .str request.requestId), ("request", request.toDict),
    ("iteration", .int nextIteration)]
    ++ model ++ suspended ++ exposureEntries host.display x.toolExposurePlan

/-- `build_max_budget_continuation`. -/
def buildMaxBudgetContinuation (interactionRequest : Given InteractionRequest) :
    Except PyError Dict := do
  let request ← InteractionRequest.fromDict host interactionRequest
  let handle ← x.handle
  let model ← x.modelEntries host
  let iteration ← (x.state.field .iteration).toInt
  let suspended ← suspendedEntries x.state handle
  return [("type", .str "max_budget_continuation"), ("kind", .str request.kind),
    ("interaction_id", .str request.interactionId), ("iteration", .int iteration)]
    ++ model ++ suspended ++ exposureEntries host.display x.toolExposurePlan

def serializeToolCall (call : Value) : Value :=
  .dict [("call_id", .str (((getattrOr call "call_id" (.str "")).or (.str "")).toStr host.display)),
    ("name", .str (((getattrOr call "name" (.str "")).or (.str "")).toStr host.display)),
    ("arguments", ensureJsonSafe host.display (getattrOr call "arguments" .none))]

def serializeBatch (batchState : Value) : Value :=
  .dict [("result_messages",
      ensureJsonSafe host.display (getattrOr batchState "result_messages" (.list []))),
    ("should_observe", .bool (getattrOr batchState "should_observe" (.bool false)).truthy),
    ("executed_call_ids",
      .list ((getattrOr batchState "executed_call_ids" (.list [])).items.filter Value.isStr))]

/-- `build_tool_approval_continuation`. -/
def buildToolApprovalContinuation (interactionRequest : Given InteractionRequest)
    (toolCalls : List Value) (batchState : Value) : Except PyError Dict := do
  let request ← InteractionRequest.fromDict host interactionRequest
  let handle ← x.handle
  let model ← x.modelEntries host
  let iteration ← (x.state.field .iteration).toInt
  let suspended ← suspendedEntries x.state handle
  let pausedCallId :=
    if request.payload.isDict then (request.payload.get "call_id").toStr host.display else ""
  return [("type", .str "tool_approval_continuation"), ("kind", .str request.kind),
    ("interaction_id", .str request.interactionId), ("iteration", .int (iteration + 1)),
    ("tool_iteration", .int iteration)]
    ++ model ++ suspended
    ++ [("tool_calls", .list (toolCalls.map (serializeToolCall host))),
      ("tool_batch_state", serializeBatch host batchState), ("paused_call_id", .str pausedCallId)]
    ++ exposureEntries host.display x.toolExposurePlan

inductive SuspendKind where
  | humanInput (request : HumanInputRequest) (nextIteration : Int)
      (interactionRequest : Option (Given InteractionRequest))
  | maxBudget (interactionRequest : Given InteractionRequest)
  | toolApproval (interactionRequest : Given InteractionRequest) (toolCalls : List Value)
      (batchState : Value)

def buildContinuation : SuspendKind → Except PyError Dict
  | .humanInput request nextIteration interactionRequest =>
    buildHumanInputContinuation host x request nextIteration interactionRequest
  | .maxBudget interactionRequest => buildMaxBudgetContinuation host x interactionRequest
  | .toolApproval interactionRequest toolCalls batchState =>
    buildToolApprovalContinuation host x interactionRequest toolCalls batchState

end Builders

end Unchain.Interaction
