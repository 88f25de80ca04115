import Unchain.Journal.Models

/-!
The durable event sink: drafts of semantic events, and the classification of a tool
call by the receipts the journal holds for it.

`recoverFromLookup` is the body of `recover_tool_side_effect` after the indexed
lookup. Its five outcomes are what every executor decides on; the branches are
kept in the order of the source, with the events and the reason each one reports.
-/

namespace Unchain.Journal

open Lib Python

variable (host : Host)

/-! ### Drafts -/

/-- `build_operation_ref`. -/
def buildOperationRef (operationId domain : String) (payload : Value) :
    Except PyError OperationRef := do
  let operationId ← requiredIdentifier host "operation_id" (.str operationId)
  let domain ← requiredIdentifier host "domain" (.str domain)
  let frozen ← host.freeze "operation" (.dict [("domain", .str domain), ("payload", payload)])
  .ok ⟨operationId, host.digest frozen⟩

structure SemanticEventDraft where
  eventId : String
  eventType : String
  attempt : AttemptRef
  operationId : String
  payload : Value
  resourceRefs : List ResourceRef
deriving DecidableEq

namespace SemanticEventDraft

def make (eventId eventType : String) (attempt : AttemptRef) (operationId : String)
    (payload : Value) (resourceRefs : List ResourceRef) : Except PyError SemanticEventDraft := do
  let eventId ← requiredIdentifier host "event_id" (.str eventId)
  let eventType ← requiredIdentifier host "event_type" (.str eventType)
  let operationId ← requiredIdentifier host "operation_id" (.str operationId)
  let frozen ← host.freeze "payload" payload
  if !frozen.isDict then .error (.typeError "payload must be an object")
  else .ok ⟨eventId, eventType, attempt, operationId, frozen, resourceRefs⟩

def operation (draft : SemanticEventDraft) : Except PyError OperationRef :=
  buildOperationRef host draft.operationId "journal.semantic_event"
    (.dict [("event_id", .str draft.eventId), ("event_type", .str draft.eventType),
      ("attempt", draft.attempt.toDict), ("payload", draft.payload),
      ("resource_refs", .list (draft.resourceRefs.map ResourceRef.toDict))])

def toAppendRequest (draft : SemanticEventDraft) : Except PyError JournalAppendRequest := do
  let operation ← draft.operation host
  .ok ⟨draft.eventId, draft.eventType, draft.attempt, operation, draft.payload, draft.resourceRefs⟩

end SemanticEventDraft

/-- `marker in s`. -/
def contains (s : List Char) (marker : String) : Bool :=
  match s with
  | [] => marker.isEmpty
  | c :: cs => marker.toList.isPrefixOf (c :: cs) || contains cs marker

/-- `_runtime_event_is_ephemeral({"type": eventType})`. -/
def runtimeEventIsEphemeral (eventType : String) : Bool :=
  eventType = "provider_retry" ||
    let squeezed := stripUnderscores (squeezeType false (host.casefold eventType).toList)
    ["reasoning", "thinking", "chain_of_thought", "hidden_cot"].any (contains squeezed) ||
      ("delta".toList.isSuffixOf squeezed &&
        ["analysis", "content", "message", "response", "stream", "token"].any (contains squeezed))

/-- `_same_persisted_event`. -/
def samePersistedEvent (request : JournalAppendRequest) (persisted : JournalEvent) : Bool :=
  persisted.eventId = request.eventId && persisted.eventType = request.eventType
    && persisted.attempt = request.attempt && persisted.operation = request.operation
    && persisted.payload.eqPy request.payload && persisted.resourceRefs = request.resourceRefs

/-! ### Recovery -/

inductive SideEffectRecoveryState where
  | notStarted
  | uncertainAfterStart
  | sealedCompletionFinalizable
  | terminalResultReusable
  | corrupt
deriving DecidableEq

structure ToolSideEffectRecovery where
  state : SideEffectRecoveryState
  callId : String
  startedEvent : Option JournalEvent
  sealedEvent : Option JournalEvent
  resultEvent : Option JournalEvent
  reusableResultArtifact : Option ArtifactRef
  reason : String
  intentEvent : Option JournalEvent

variable (event : JournalEvent)

/-- `_reusable_result_ref`. -/
def reusableResultRef : Option ArtifactRef :=
  match ResourceRef.fromDict host (event.payload.get "full_output_ref") with
  | .error _ => none
  | .ok ref =>
    match event.payload.get "result_bytes", event.payload.get "result_sha256" with
    | .int byteLength, .str digest =>
      if ref.kind ≠ "artifact" || !event.resourceRefs.contains ref || byteLength < 0
          || !isSha256 digest then none
      else
        (ArtifactRef.make host ref (.str "application/json") (.int byteLength) (.str digest)
          (.str (((event.payload.get "preview").or (.str "")).toStr host.display))).toOption
    | _, _ => none

/-- The tool an event names, if it names one by a non-empty text without surrounding
blanks. -/
def stableToolName : Option String :=
  match event.payload.get "tool_name" with
  | .str name => if name = strip name && !name.isEmpty then some name else none
  | _ => none

def isIntent : Bool := event.eventType = "tool_call"

def isStarted : Bool := event.eventType = "tool.started"

def isSealed : Bool := event.eventType = "tool.subagent_completion.sealed"

/-- Everything else the index returns counts as a result. -/
def isResult : Bool :=
  !isIntent event && !isStarted event && !isSealed event

/-- `xs[0] if len(xs) == 1 else None`. -/
def onlyOne (events : List JournalEvent) : Option JournalEvent :=
  match events with
  | [event] => some event
  | _ => none

/-- `recover_tool_side_effect`, from the answer of the index on. -/
def recoverFromLookup (lookup : ToolExecutionReceiptLookup) (callId : String) :
    ToolSideEffectRecovery :=
  if lookup.overflow then
    ⟨.corrupt, callId, none, none, none, none,
      "tool boundary cardinality exceeds the indexed limit", none⟩
  else
  let intents := lookup.events.filter isIntent
  let started := lookup.events.filter isStarted
  let sealedEvents := lookup.events.filter isSealed
  let results := lookup.events.filter isResult
  if lookup.events.any fun event => (stableToolName event).isNone then
    ⟨.corrupt, callId, none, none, none, none,
      "tool boundary is missing a stable tool identity", none⟩
  else if intents.length > 1 || started.length > 1 || sealedEvents.length > 1
      || results.length > 1 then
    ⟨.corrupt, callId, onlyOne started, onlyOne sealedEvents, onlyOne results, none,
      "tool boundary cardinality is invalid", onlyOne intents⟩
  else
  let sealedEvent := sealedEvents.head?
  let result := results.head?
  match intents.head?, started.head? with
  | none, start =>
    ⟨.corrupt, callId, start, sealedEvent, result, none,
      "tool boundary is missing its durable call intent", none⟩
  | some intent, none =>
    if sealedEvent.isSome || result.isSome then
      ⟨.corrupt, callId, none, sealedEvent, result, none,
        "tool completion exists without a durable tool start", some intent⟩
    else ⟨.notStarted, callId, none, none, none, none, "", some intent⟩
  | some intent, some start =>
    if start.storeSeq ≤ intent.storeSeq then
      ⟨.corrupt, callId, some start, sealedEvent, result, none,
        "tool start does not follow tool call intent", some intent⟩
    else if sealedEvent.any fun s => s.storeSeq ≤ start.storeSeq then
      ⟨.corrupt, callId, some start, sealedEvent, result, none,
        "sealed completion does not follow tool start", some intent⟩
    else if result.any fun r => sealedEvent.any fun s => r.storeSeq ≤ s.storeSeq then
      ⟨.corrupt, callId, some start, sealedEvent, result, none,
        "tool result does not follow sealed completion", some intent⟩
    else
      match result with
      | none =>
        if sealedEvent.isSome then
          ⟨.sealedCompletionFinalizable, callId, some start, sealedEvent, none, none, "",
            some intent⟩
        else
          ⟨.uncertainAfterStart, callId, some start, sealedEvent, none, none,
            "tool start is durable but no terminal result is durable", some intent⟩
      | some r =>
        if (lookup.events.filterMap stableToolName).eraseDups.length ≠ 1 then
          ⟨.corrupt, callId, some start, sealedEvent, some r, none,
            "tool boundary has a mismatched stable tool identity", some intent⟩
        else if r.storeSeq ≤ start.storeSeq then
          ⟨.corrupt, callId, some start, sealedEvent, some r, none,
            "tool result does not follow tool start", some intent⟩
        else
          match reusableResultRef host r with
          | none =>
            ⟨.corrupt, callId, some start, sealedEvent, some r, none,
              "tool result lacks a complete durable artifact descriptor", some intent⟩
          | some artifact =>
            ⟨.terminalResultReusable, callId, some start, sealedEvent, some r,
              some artifact, "", some intent⟩

end Unchain.Journal
