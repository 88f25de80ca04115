import Unchain.Tools.ResultBudget

/-!
The payloads of tool results in a provider's messages.

A message is searched for payloads at four places; a payload that is found is resolved to the call
it answers. `collectResultRecords` finds them in order, `writeRecordPayload` puts another payload
where one was found.
-/

namespace Unchain.Tools.ResultBudget

open Lib Python

variable (host : BudgetHost)

structure ToolCall where
  callId : String
  name : String

/-! ### Calls -/

/-- `_tool_call_maps`: the last call with an id, and the calls with a name in order. -/
structure ToolCallMaps where
  byId : List (String × ToolCall)
  byName : List (String × List ToolCall)

def toolCallMaps (toolCalls : List ToolCall) : ToolCallMaps :=
  toolCalls.foldl
    (fun maps call =>
      { byId := if call.callId = "" then maps.byId else Assoc.set call.callId call maps.byId,
        byName := Assoc.set call.name ((Assoc.get call.name maps.byName).getD [] ++ [call])
          maps.byName })
    ⟨[], []⟩

/-- `_resolve_call`: the name and the id of the call, and the ids used so far. -/
def resolveCall (maps : ToolCallMaps) (callId toolName : String) (usedCallIds : List String) :
    (String × String) × List String :=
  match if callId = "" then none else Assoc.get callId maps.byId with
  | some call => ((call.name, call.callId), call.callId :: usedCallIds)
  | none =>
    if toolName = "" then ((toolName, callId), usedCallIds)
    else
      let calls := (Assoc.get toolName maps.byName).getD []
      match calls.find? fun call => call.callId ∉ usedCallIds with
      | some call => ((call.name, call.callId), call.callId :: usedCallIds)
      | none =>
        match calls with
        | call :: _ => ((call.name, call.callId), usedCallIds)
        | [] => ((toolName, callId), usedCallIds)

/-! ### Finding payloads -/

structure Found where
  location : Location
  callId : String
  toolName : String
  payload : Value × PayloadFormat

/-- `str(value or "")`. -/
def textOr (v : Value) : String := (v.or (.str "")).toStr host.display

variable (message : Value)

/-- `message.get("type") == "function_call_output"`. -/
def findOutput : List Found :=
  if (message.get "type").eqPy (.str "function_call_output") then
    [⟨.openaiFunctionCallOutput, textOr host (message.get "call_id"), "",
      normalizePayload host (message.getD "output" (.str ""))⟩]
  else []

def isTextBlock (block : Value) : Bool := block.isDict && (block.get "type").eqPy (.str "text")

def blockText (blocks : List Value) : String :=
  "\n".intercalate ((blocks.filter isTextBlock).map fun block => textOr host (block.get "text"))

def preservedBlocks (blocks : List Value) : List Value := blocks.filter fun block => !isTextBlock block

def isResultBlock (block : Value) : Bool :=
  block.isDict && (block.get "type").eqPy (.str "tool_result")

/-- The payload of a `tool_result` block. -/
def foundBlock (blockIndex : Nat) (block : Value) : Found :=
  match block.getD "content" (.str "") with
  | .list subBlocks =>
    ⟨.contentBlockToolResult blockIndex (some (preservedBlocks subBlocks)),
      textOr host (block.get "tool_use_id"), "", (.str (blockText host subBlocks), .rawString)⟩
  | rawContent =>
    ⟨.contentBlockToolResult blockIndex none, textOr host (block.get "tool_use_id"), "",
      normalizePayload host rawContent⟩

def findBlocks : List Found :=
  match message.get "content" with
  | .list blocks => blocks.zipIdx.filterMap fun (block, blockIndex) =>
    if isResultBlock block then some (foundBlock host blockIndex block) else none
  | _ => []

/-- `message.get("role") == "tool" and "content" in message`. -/
def isToolMessage : Bool :=
  (message.get "role").eqPy (.str "tool") && message.hasKey "content"

def findContent : List Found :=
  if isToolMessage message then
    [⟨.roleToolContent, textOr host (message.get "tool_call_id"), "",
      normalizePayload host (message.getD "content" (.str ""))⟩]
  else []

def isResponsePart (part : Value) : Bool := part.isDict && (part.get "function_response").isDict

def foundPart (partIndex : Nat) (part : Value) : Found :=
  let functionResponse := part.get "function_response"
  ⟨.partsFunctionResponse partIndex,
    (((functionResponse.get "id").or (part.get "id")).or (.str "")).toStr host.display,
    textOr host (functionResponse.get "name"),
    normalizePayload host (functionResponse.getD "response" (.dict []))⟩

def findParts : List Found :=
  match message.get "parts" with
  | .list parts => parts.zipIdx.filterMap fun (part, partIndex) =>
    if isResponsePart part then some (foundPart host partIndex part) else none
  | _ => []

def findPayloads : List Found :=
  if message.isDict then
    findOutput host message ++ findBlocks host message ++ findContent host message
      ++ findParts host message
  else []

def Found.record (messageIndex : Nat) (found : Found) (resolved : String × String) : ResultRecord :=
  { messageIndex, location := found.location, toolName := resolved.1, callId := resolved.2,
    payload := found.payload.1, payloadFormat := found.payload.2,
    originalChars := payloadChars host found.payload.1 found.payload.2 }

/-- Resolve the payloads one after the other. -/
def resolveFound (maps : ToolCallMaps) : List String → List (Nat × Found) → List ResultRecord
  | _, [] => []
  | usedCallIds, (messageIndex, found) :: rest =>
    let (resolved, usedCallIds) := resolveCall maps found.callId found.toolName usedCallIds
    found.record host messageIndex resolved :: resolveFound maps usedCallIds rest

/-- `_collect_result_records`. -/
def collectResultRecords (messages : List Value) (toolCalls : List ToolCall) : List ResultRecord :=
  resolveFound host (toolCallMaps toolCalls) []
    (messages.zipIdx.flatMap fun (message, messageIndex) =>
      (findPayloads host message).map fun found => (messageIndex, found))

/-! ### Writing payloads -/

/-- The content of a `tool_result` block with a payload written in it. A block array keeps its other
blocks, after the text if there is one. -/
def blockContent (serialized : Value) : Option (List Value) → Value
  | some richPreservedBlocks =>
    let text := match serialized with
      | .str s => s
      | v => String.ofList (stableJsonDumps host v)
    .list ((if text = "" then [] else [.dict [("type", .str "text"), ("text", .str text)]])
      ++ richPreservedBlocks)
  | none => serialized

def writeAt (serialized : Value) (message : Value) : Location → Value
  | .openaiFunctionCallOutput => message.setKey "output" serialized
  | .contentBlockToolResult blockIndex richPreservedBlocks =>
    match message.get "content" with
    | .list blocks =>
      message.setKey "content" (.list (blocks.modify blockIndex fun block =>
        block.setKey "content" (blockContent host serialized richPreservedBlocks)))
    | _ => message
  | .roleToolContent => message.setKey "content" serialized
  | .partsFunctionResponse partIndex =>
    match message.get "parts" with
    | .list parts =>
      message.setKey "parts" (.list (parts.modify partIndex fun part =>
        match part.get "function_response" with
        | .dict entries =>
          part.setKey "function_response" ((Value.dict entries).setKey "response" serialized)
        | _ => part))
    | _ => message

/-- `_write_record_payload`. -/
def writeRecordPayload (messages : List Value) (record : ResultRecord) (payload : Value) :
    List Value :=
  messages.modify record.messageIndex fun message =>
    writeAt host (serializePayload host payload record.payloadFormat) message record.location

end Unchain.Tools.ResultBudget
