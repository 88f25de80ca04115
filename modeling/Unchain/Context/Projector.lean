import Unchain.Context.ToolBoundary

/-!
The projector of runtime events (`CanonicalSemanticEventProjector`).

An event is read first: its durable type, the fields that go into its identity, the fields that are
copied into the payload and the resources. The draft is made of what was read. Both durable
identities are digests of the type and the discriminator, so two events collide
(`collision_iff`) exactly where they are read with the same discriminator and with other fields.
An unknown event copies no field besides its discriminator, so it never collides.
-/

namespace Unchain.Context

open Lib Lib.Effect Python Journal

/-! ### Kinds of events -/

/-- `_EPHEMERAL_EVENT_TYPES`. -/
def ephemeralEventTypes : List String :=
  ["reasoning", "reasoning_delta", "token_delta", "content_delta", "message_delta",
    "response_delta", "provider_retry"]

/-- `_LIFECYCLE_EVENT_TYPES`. -/
def lifecycleEventTypes : List String :=
  ["run_started", "iteration_started", "response_received", "iteration_completed", "final_message",
    "run_completed", "run_failed", "run_cancelled", "run_canceled", "run_aborted",
    "run_max_iterations"]

/-- `_INTERACTION_EVENT_TYPES`. -/
def interactionEventTypes : List String :=
  ["interaction_requested", "interaction_resolved", "tool_confirmation_requested",
    "human_input_requested", "continuation_request", "tool_confirmed", "tool_denied"]

/-- `_ARTIFACT_EVENT_TYPES`. -/
def artifactEventTypes : List String := ["artifact_created", "artifact_updated"]

/-- `_SUBAGENT_EVENT_TYPES`. -/
def subagentEventTypes : List String :=
  ["subagent_spawned", "subagent_started", "subagent_completed", "subagent_failed",
    "subagent_cancelled", "subagent_canceled", "subagent_handoff", "subagent_batch_started",
    "subagent_batch_joined", "subagent_clarification_requested", "subagent_return_handoff_started",
    "subagent_return_handoff_completed", "agent_thread_spawned", "agent_thread_completed",
    "agent_thread_failed", "agent_thread_closed"]

def boundedEventTypes : List String :=
  lifecycleEventTypes ++ interactionEventTypes ++ artifactEventTypes ++ subagentEventTypes

/-- `_SAFE_RUNTIME_FIELDS`. -/
def safeRuntimeFields : List String :=
  ["agent_id", "arguments", "artifact", "artifact_id", "batch_id", "call_id", "child_run_id",
    "code", "confirmation_id", "content", "error", "has_tool_calls", "interaction_id",
    "interaction_request", "iteration", "lineage", "message", "mode", "model", "parent_id",
    "parent_run_id", "plan_id", "provider", "reason", "recoverable", "request_id", "response",
    "response_id", "root_agent", "root_run_id", "status", "subagent_id", "template", "thread_id",
    "tool_call_id", "tool_name", "workflow_node_id", "workflow_step_count", "workflow_step_index"]

/-- The fields that `_event_discriminator` tries, in its order. -/
def discriminatorFields : List String :=
  ["interaction_id", "confirmation_id", "request_id", "artifact_id", "child_run_id", "batch_id",
    "thread_id", "call_id"]

/-- `_SOURCE_TOOL_PROVIDERS`. -/
def sourceToolProviders : List String := ["openai", "anthropic", "hyperspace", "ollama", "gemini"]

/-- `TIMELINE_MERGE_POLICIES`. -/
def timelineMergePolicies : List String := ["never", "no_feedback", "approved", "always"]

/-- `_SHADOW_OBSERVATION`. -/
def shadowObservation : Value :=
  .dict [("schema", .str "unchain.shadow_observed_tool_event.v1"), ("mode", .str "shadow"),
    ("observed", .bool true), ("authoritative", .bool false),
    ("source", .str "legacy_runtime_callback")]

/-! ### The projector -/

/-- `CanonicalSemanticEventProjector`; `observed` says that it has a shadow adapter. -/
structure CanonicalSemanticEventProjector where
  attempt : AttemptRef
  observed : Bool

/-- What the artifact service, the output manager and the receipt index answer when an event is
projected. -/
structure Surroundings where
  artifactizeToolResult : (result : Value) → (operationId : String) →
    Except PyError ToolResultArtifactization
  projectToolOutput : (artifactization : ToolResultArtifactization) → (callId : String) →
    (requestedPolicy : Value) → Except PyError (Value × Value)
  lookupToolExecutionReceipts : (callId : String) → Except PyError ToolExecutionReceiptLookup

/-- What an event is read as: the arguments of `_identity`, `_sanitize_payload` and `_draft`. -/
structure Reading where
  eventType : String
  discriminator : Dict
  payload : Dict
  protectedFields : Dict
  resourceRefs : List ResourceRef
deriving DecidableEq

section Fields

variable (host : Host)

/-- `_bounded_iteration`. -/
def boundedIteration : Value → Except PyError Value
  | .none => .ok .none
  | .int n =>
    if n < 0 then .error (projectionError "runtime event iteration is invalid") else .ok (.int n)
  | _ => .error (projectionError "runtime event iteration is invalid")

/-- `_timeline_merge_policy_payload`. -/
def timelineMergePolicyPayload (event : Value) : Dict :=
  if !event.hasKey "timeline_merge_policy" then []
  else match event.get "timeline_merge_policy" with
    | .str policy =>
      [("timeline_merge_policy", .str (if policy ∈ timelineMergePolicies then policy else "never"))]
    | _ => [("timeline_merge_policy", .str "never")]

/-- `_normalized_source_provider`, as the entries of the payload. -/
def normalizedSourceProvider (event : Value) : Except PyError Dict :=
  if !event.hasKey "source_provider" then .ok []
  else match event.get "source_provider" with
    | .str raw =>
      let provider := host.casefold (strip raw)
      if provider ∈ sourceToolProviders then .ok [("source_provider", .str provider)]
      else .error (projectionError "tool call source provider is unsupported")
    | _ => .error (projectionError "tool call source provider is invalid")

/-- `_tool_identity`; the adapter's differs in its message. -/
def toolIdentity (message : String) (event : Value) : Except PyError (String × String) :=
  onInvalid (projectionError message) do
    let callId ← requiredIdentifier host "call_id"
      ((event.get "call_id").or (event.get "tool_call_id"))
    let toolName ← requiredIdentifier host "tool_name" (event.get "tool_name")
    return (callId, toolName)

def canonicalToolIdentity (event : Value) : Except PyError (String × String) :=
  toolIdentity host "tool boundary requires exact call and tool identity" event

def observedToolIdentity (event : Value) : Except PyError (String × String) :=
  toolIdentity host "shadow observed tool boundary requires exact call and tool identity" event

/-- `_tool_execution_subject`, as the entries of the payload. -/
def toolExecutionSubject (event : Value) : Except PyError Dict := do
  let raw := event.get "execution_subject"
  raiseIf (!raw.isDict) (projectionError "tool execution subject is missing")
  let subject ← (DurableToolExecutionSubject.fromDict host raw).mapError
    (rewriting isRecordError (projectionError "tool execution subject schema is invalid"))
  let digest ← onInvalid (projectionError "tool execution subject digest is invalid")
    (sha256Text "execution_subject_sha256" (event.get "execution_subject_sha256"))
  let expected ← subject.sha256 host
  raiseIf (expected ≠ digest)
    (projectionError "tool execution subject digest does not match")
  return [("execution_subject", subject.toDict), ("execution_subject_sha256", .str digest)]

/-- `_event_discriminator`: the first of the fields that is not blank, or the type. -/
def eventDiscriminator (eventType : String) (event : Value) : String :=
  let text key := strip (((event.get key).or (.str "")).toStr host.display)
  match discriminatorFields.find? fun key => !(text key).isEmpty with
  | some key => key ++ ":" ++ text key
  | none => eventType

/-- `_require_bound_run`. -/
def requireBoundRun (attempt : AttemptRef) (event : Value) : Except PyError Unit :=
  raiseIf (strip (((event.get "run_id").or (.str "")).toStr host.display) ≠ attempt.attemptId)
    (projectionError "runtime event run does not match the bound attempt")

end Fields

namespace CanonicalSemanticEventProjector

variable (host : Host) (p : CanonicalSemanticEventProjector) (w : Surroundings)

def runEntry : Dict := [("run_id", .str p.attempt.attemptId)]

/-- `_project_interaction_requested`. -/
def projectInteractionRequested (event : Value) : Except PyError Reading := do
  let request := event.get "interaction_request"
  raiseIf (!request.isDict) (projectionError "interaction request payload is missing")
  let (nested, interactionId) ← onInvalid (projectionError "interaction request identity is invalid")
    (do
      let nested ← requiredIdentifier host "interaction_id" (request.get "interaction_id")
      let raw := event.get "interaction_id"
      let interactionId ←
        if raw.isNone then Except.ok nested else requiredIdentifier host "interaction_id" raw
      return (nested, interactionId))
  raiseIf (interactionId ≠ nested) (projectionError "interaction request identity changed")
  let iteration ← boundedIteration (event.get "iteration")
  return {
    eventType := "interaction.requested"
    discriminator := [("interaction_id", .str interactionId)]
    payload := p.runEntry ++ [("iteration", iteration), ("interaction_id", .str interactionId),
      ("interaction_request", request)]
    protectedFields := p.runEntry ++ [("interaction_id", .str interactionId)]
    resourceRefs := [] }

/-- `_project_tool_call`. -/
def projectToolCall (event : Value) : Except PyError Reading := do
  let (callId, toolName) ← canonicalToolIdentity host event
  let iteration ← boundedIteration (event.get "iteration")
  let provider ← normalizedSourceProvider host event
  return {
    eventType := "tool_call"
    discriminator := [("call_id", .str callId)]
    payload := p.runEntry ++ [("iteration", iteration), ("tool_name", .str toolName),
      ("call_id", .str callId), ("arguments", (event.get "arguments").or (.dict []))]
      ++ timelineMergePolicyPayload event ++ provider
    protectedFields := p.runEntry ++ [("tool_name", .str toolName), ("call_id", .str callId)]
      ++ provider
    resourceRefs := [] }

/-- `ShadowObservedToolEventAdapter.project_tool_call`. -/
def observeToolCall (event : Value) : Except PyError Reading := do
  let (callId, toolName) ← observedToolIdentity host event
  let iteration ← boundedIteration (event.get "iteration")
  let provider ← normalizedSourceProvider host event
  let kept := p.runEntry ++ [("tool_name", .str toolName), ("call_id", .str callId),
    ("observation", shadowObservation)] ++ provider
  return {
    eventType := "tool_call"
    discriminator := [("call_id", .str callId)]
    payload := kept ++ [("iteration", iteration),
      ("arguments", (event.get "arguments").or (.dict []))] ++ timelineMergePolicyPayload event
    protectedFields := kept
    resourceRefs := [] }

/-- `_project_tool_started`. -/
def projectToolStartedEvent (event : Value) : Except PyError Reading := do
  let (callId, toolName) ← canonicalToolIdentity host event
  let iteration ← boundedIteration (event.get "iteration")
  let subject ← toolExecutionSubject host event
  let payload := p.runEntry ++ [("iteration", iteration), ("tool_name", .str toolName),
    ("call_id", .str callId)] ++ subject
  return {
    eventType := "tool.started"
    discriminator := [("call_id", .str callId)]
    payload := payload
    protectedFields := payload
    resourceRefs := [] }

def resultOperationId (callId : String) : String :=
  "artifact.tool-result." ++ host.digest (toolEventIdentity p.attempt "tool_result" callId)

def previewEntries (a : ToolResultArtifactization) : Dict :=
  [("preview", .str a.artifact.preview),
    ("preview_truncated", .bool (a.artifact.byteLength > (a.artifact.preview.utf8ByteSize : Int)))]

/-- `_project_artifactized_tool_result`. -/
def projectArtifactizedToolResult (a : ToolResultArtifactization) (callId : String)
    (requestedPolicy : Value) : Except PyError Dict := do
  let (result, metadata) ← w.projectToolOutput a callId requestedPolicy
  return [("result", result), ("full_output_ref", a.fullOutputRef.toDict),
    ("result_bytes", .int a.artifact.byteLength), ("result_sha256", .str a.artifact.sha256),
    ("result_projection", metadata)]

/-- Without a requested policy the artifact view is recorded as it is. -/
def resultFields (a : ToolResultArtifactization) (callId : String) (requestedPolicy : Value) :
    Except PyError Dict :=
  if requestedPolicy.isNone then .ok a.eventFields
  else projectArtifactizedToolResult w a callId requestedPolicy

/-- `_project_tool_result`. -/
def projectToolResult (event : Value) : Except PyError Reading := do
  let (callId, toolName) ← canonicalToolIdentity host event
  let iteration ← boundedIteration (event.get "iteration")
  let subject ← toolExecutionSubject host event
  let a ← w.artifactizeToolResult (event.get "result") (p.resultOperationId host callId)
  let resultFields ← resultFields w a callId
    ((event.get "tool_result_policy").or (event.get "tool_result_projection_policy"))
  return {
    eventType := "tool_result"
    discriminator := [("call_id", .str callId)]
    payload := p.runEntry ++ [("iteration", iteration), ("tool_name", .str toolName),
      ("call_id", .str callId)] ++ subject ++ resultFields ++ previewEntries a
    protectedFields := p.runEntry ++ [("tool_name", .str toolName), ("call_id", .str callId)]
      ++ subject ++ resultFields
    resourceRefs := [a.fullOutputRef] }

/-- `_require_observed_call_pair`. -/
def requireObservedCallPair (callId toolName : String) (iteration : Value) :
    Except PyError Unit := do
  let lookup ← w.lookupToolExecutionReceipts callId
  raiseIf (lookup.attempt ≠ p.attempt || lookup.callId ≠ callId || lookup.overflow)
    (projectionError "shadow observed tool receipt lookup is invalid")
  let calls := lookup.events.filter fun e => e.eventType = "tool_call"
  let results := lookup.events.filter fun e => e.eventType = "tool_result"
  raiseIf (calls.length ≠ 1 || results.length > 1
      || calls.length + results.length ≠ lookup.events.length)
    (projectionError "shadow observed tool call pair is missing or ambiguous")
  raiseIf ((calls ++ results).any fun receipt =>
      !(receipt.payload.get "tool_name").eqPy (.str toolName)
        || !(receipt.payload.get "iteration").eqPy iteration
        || !(receipt.payload.get "observation").eqPy shadowObservation)
    (projectionError "shadow observed tool call pair changed identity")

/-- `ShadowObservedToolEventAdapter.project_tool_result`. -/
def observeToolResult (event : Value) : Except PyError Reading := do
  let (callId, toolName) ← observedToolIdentity host event
  let iteration ← boundedIteration (event.get "iteration")
  p.requireObservedCallPair w callId toolName iteration
  let a ← w.artifactizeToolResult (event.get "result") (p.resultOperationId host callId)
  let kept := p.runEntry ++ [("tool_name", .str toolName), ("call_id", .str callId),
    ("observation", shadowObservation)] ++ a.eventFields
  return {
    eventType := "tool_result"
    discriminator := [("call_id", .str callId)]
    payload := kept ++ [("iteration", iteration)] ++ previewEntries a
    protectedFields := kept
    resourceRefs := [a.fullOutputRef] }

/-- `_validate_interaction_resume_replay`. -/
def validateInteractionResumeReplay (event : Value) : Except PyError Unit := do
  let (_, toolName) ← canonicalToolIdentity host event
  let _ ← onInvalid (projectionError "interaction resume replay identity is invalid")
    (requiredIdentifier host "interaction_id" (event.get "interaction_id"))
  raiseIf (toolName ≠ "ask_user_question")
    (projectionError "interaction resume replay identity is invalid")

/-- `_project_bounded_event`. -/
def projectBoundedEvent (eventType : String) (event : Value) : Except PyError Reading := do
  let iteration ← boundedIteration (event.get "iteration")
  return {
    eventType := eventType
    discriminator := [("iteration", iteration),
      ("discriminator", .str (eventDiscriminator host eventType event))]
    payload := p.runEntry ++ event.entries.filter fun entry => entry.1 ∈ safeRuntimeFields
    protectedFields := p.runEntry
    resourceRefs := [] }

/-- `_project_unknown_event`. -/
def projectUnknownEvent (eventType : String) (event : Value) : Except PyError Reading := do
  let iteration ← boundedIteration (event.get "iteration")
  return {
    eventType := "runtime_event"
    discriminator := [("raw_type", .str eventType), ("iteration", iteration)]
    payload := p.runEntry ++ [("raw_type", .str eventType), ("iteration", iteration)]
    protectedFields := p.runEntry
    resourceRefs := [] }

/-- The event asks for an interaction under one of its names. -/
def isInteractionRequest (eventType : String) (event : Value) : Bool :=
  eventType = "interaction_requested" || eventType = "interaction.requested"
    || (eventType = "human_input_requested" && (event.get "interaction_request").isDict)

/-- The cases of `__call__`, of an event that is neither ephemeral nor of another run. -/
def readTyped (eventType : String) (event : Value) : Except PyError (Option Reading) :=
  if isInteractionRequest eventType event then
    (p.projectInteractionRequested host event).map some
  else if eventType = "tool_call" then
    if p.observed then (p.observeToolCall host event).map some
    else (p.projectToolCall host event).map some
  else if eventType = "tool.started" then (p.projectToolStartedEvent host event).map some
  else if eventType = "tool_result" then
    if event.get "interaction_resume_replay" = .bool true then
      (validateInteractionResumeReplay host event).map fun _ => none
    else if p.observed then (p.observeToolResult host w event).map some
    else (p.projectToolResult host w event).map some
  else if eventType ∈ boundedEventTypes then
    (p.projectBoundedEvent host eventType event).map some
  else (p.projectUnknownEvent eventType event).map some

/-- `__call__`, up to the draft. -/
def readEvent (event : Value) : Except PyError (Option Reading) :=
  if !event.isDict then .error (.typeError "runtime event must be an object")
  else
    let eventType := strip (((event.get "type").or (.str "")).toStr host.display)
    if eventType.isEmpty then .error (projectionError "runtime event type is missing")
    else if eventType ∈ ephemeralEventTypes then .ok none
    else do
      requireBoundRun host p.attempt event
      p.readTyped host w eventType event

/-- `_identity`. -/
def identity (x : Reading) : Value :=
  .dict [("attempt", p.attempt.toDict), ("event_type", .str x.eventType),
    ("discriminator", .dict x.discriminator)]

/-- `_sanitize_payload` and `_draft`. -/
def draft (x : Reading) : Except PyError SemanticEventDraft := do
  let sanitized ← sanitizePayload host x.eventType x.payload x.protectedFields
  projectDraft host p.attempt x.eventType (p.identity x) sanitized x.resourceRefs

/-- `__call__`. -/
def project (event : Value) : Except PyError (Option SemanticEventDraft) := do
  match ← p.readEvent host w event with
  | none => return none
  | some x => (p.draft host x).map some

/-! ### What is read of an event -/

section Read

variable {host : Host} {p : CanonicalSemanticEventProjector} {w : Surroundings} {event : Value}
  {x : Reading}

theorem eventType_interactionRequested (h : p.projectInteractionRequested host event = .ok x) :
    x.eventType = "interaction.requested" := by
  simp only [projectInteractionRequested, bind_iff, pure_iff] at h
  obtain ⟨_, -, _, -, _, -, _, -, rfl⟩ := h
  rfl

theorem eventType_toolCall (h : p.projectToolCall host event = .ok x) :
    x.eventType = "tool_call" := by
  simp only [projectToolCall, bind_iff, pure_iff] at h
  obtain ⟨_, -, _, -, _, -, rfl⟩ := h
  rfl

theorem eventType_observedCall (h : p.observeToolCall host event = .ok x) :
    x.eventType = "tool_call" := by
  simp only [observeToolCall, bind_iff, pure_iff] at h
  obtain ⟨_, -, _, -, _, -, rfl⟩ := h
  rfl

theorem eventType_toolStarted (h : p.projectToolStartedEvent host event = .ok x) :
    x.eventType = "tool.started" := by
  simp only [projectToolStartedEvent, bind_iff, pure_iff] at h
  obtain ⟨_, -, _, -, _, -, rfl⟩ := h
  rfl

theorem eventType_toolResult (h : p.projectToolResult host w event = .ok x) :
    x.eventType = "tool_result" := by
  simp only [projectToolResult, bind_iff, pure_iff] at h
  obtain ⟨_, -, _, -, _, -, _, -, _, -, rfl⟩ := h
  rfl

theorem eventType_observedResult (h : p.observeToolResult host w event = .ok x) :
    x.eventType = "tool_result" := by
  simp only [observeToolResult, bind_iff, pure_iff] at h
  obtain ⟨_, -, _, -, _, -, _, -, rfl⟩ := h
  rfl

end Read

/-! ### Identities -/

/-- What is relied on of the digest and of Unicode normalisation: a digest is sixty-four
hexadecimal digits, and a text of ASCII characters is normalised. -/
structure Hexadecimal (host : Host) : Prop where
  digest : ∀ v, isSha256 (host.digest v) = true
  ascii : ∀ s : String, (∀ c ∈ s.toList, c.toNat < 128) → host.nfc s = s

section Identity

variable {host : Host} {p : CanonicalSemanticEventProjector}

theorem required_durableId (hexadecimal : Hexadecimal host) {field start id : String} {v : Value}
    (plain : ∀ c ∈ start.toList, 33 ≤ c.toNat ∧ c.toNat < 128)
    (h : requiredIdentifier host field (.str (start ++ host.digest v)) = .ok id) :
    id = start ++ host.digest v := by
  have chars : ∀ c ∈ (start ++ host.digest v).toList, 33 ≤ c.toNat ∧ c.toNat < 128 := by
    intro c mem
    rw [String.toList_append] at mem
    rcases List.mem_append.mp mem with inStart | inDigest
    · exact plain c inStart
    · have digit := (isSha256_char (hexadecimal.digest v)).2 c inDigest
      omega
  have stripped : strip (start ++ host.digest v) = start ++ host.digest v := by
    rw [strip, stripChars_of_no_space fun c mem => isSpace_of_ascii (chars c mem).1 (chars c mem).2,
      String.ofList_toList]
  have normal := hexadecimal.ascii _ fun c mem => (chars c mem).2
  unfold requiredIdentifier requiredText at h
  simp only [stripped, normal] at h
  split at h
  · cases h
  split at h
  · cases h
  split at h
  · cases h
  · exact (Except.ok.inj h).symm

def recorded (host : Host) (x : Reading) : Except PyError Value := do
  let sanitized ← sanitizePayload host x.eventType x.payload x.protectedFields
  host.freeze "payload" sanitized

theorem draft_ok (hexadecimal : Hexadecimal host) {x : Reading} {d : SemanticEventDraft}
    (h : p.draft host x = .ok d) : d.eventId = "event-" ++ host.digest (p.identity x) ∧
      d.operationId = "operation-" ++ host.digest (p.identity x) ∧
      recorded host x = .ok d.payload ∧ d.resourceRefs = x.resourceRefs := by
  simp only [draft, projectDraft, SemanticEventDraft.make, bind_iff] at h
  obtain ⟨sanitized, screened, eventId, eventOk, eventType, -, operationId, operationOk, frozen,
    froze, h⟩ := h
  split at h
  · cases h
  cases h
  refine ⟨required_durableId hexadecimal (by decide) eventOk,
    required_durableId hexadecimal (by decide) operationOk, ?_, rfl⟩
  rw [recorded, screened]
  exact froze

theorem project_ok {w : Surroundings} {event : Value} {d : SemanticEventDraft}
    (h : p.project host w event = .ok (some d)) :
    ∃ x, p.readEvent host w event = .ok (some x) ∧ p.draft host x = .ok d := by
  obtain ⟨x?, read, h⟩ := bind_ok h
  cases x? with
  | none => cases h
  | some x =>
    obtain ⟨d', made, same⟩ := map_ok h
    cases same
    exact ⟨x, read, made⟩

end Identity

/-! ### Collisions -/

def unknownReading (p : CanonicalSemanticEventProjector) (rawType : String) (iteration : Value) :
    Reading where
  eventType := "runtime_event"
  discriminator := [("raw_type", .str rawType), ("iteration", iteration)]
  payload := p.runEntry ++ [("raw_type", .str rawType), ("iteration", iteration)]
  protectedFields := p.runEntry
  resourceRefs := []

structure Clash (host : Host) (x y : Reading) : Prop where
  eventType : x.eventType = y.eventType
  known : x.eventType ≠ "runtime_event"
  discriminator : x.discriminator = y.discriminator
  differ : ¬ (recorded host x = recorded host y ∧ x.resourceRefs = y.resourceRefs)

section Collision

variable {host : Host} {p : CanonicalSemanticEventProjector} {w v : Surroundings}
  {e f : Value} {x y : Reading}

theorem unknown_of_readTyped {eventType : String}
    (h : p.readTyped host w eventType e = .ok (some x)) (unknown : x.eventType = "runtime_event") :
    ∃ rawType iteration, x = unknownReading p rawType iteration := by
  have known : ∀ {outcome : Except PyError Reading} {name : String},
      outcome.map some = .ok (some x) → (∀ z, outcome = .ok z → z.eventType = name) →
        name = "runtime_event" := by
    intro outcome name mapped named
    obtain ⟨z, ran, same⟩ := map_ok mapped
    cases same
    rw [← named x ran, unknown]
  unfold readTyped at h
  split at h
  · exact absurd (known h fun _ => eventType_interactionRequested) (by decide)
  split at h
  · split at h
    · exact absurd (known h fun _ => eventType_observedCall) (by decide)
    · exact absurd (known h fun _ => eventType_toolCall) (by decide)
  split at h
  · exact absurd (known h fun _ => eventType_toolStarted) (by decide)
  split at h
  · split at h
    · obtain ⟨_, -, none⟩ := map_ok h
      cases none
    split at h
    · exact absurd (known h fun _ => eventType_observedResult) (by decide)
    · exact absurd (known h fun _ => eventType_toolResult) (by decide)
  split at h
  · next bounded =>
      obtain ⟨z, ran, same⟩ := map_ok h
      cases same
      simp only [projectBoundedEvent, bind_iff, pure_iff] at ran
      obtain ⟨iteration, -, rfl⟩ := ran
      have named : eventType = "runtime_event" := unknown
      rw [named] at bounded
      exact absurd bounded (by decide)
  · obtain ⟨z, ran, same⟩ := map_ok h
    cases same
    simp only [projectUnknownEvent, bind_iff, pure_iff] at ran
    obtain ⟨iteration, -, rfl⟩ := ran
    exact ⟨eventType, iteration, rfl⟩

theorem unknown_of_read (h : p.readEvent host w e = .ok (some x))
    (unknown : x.eventType = "runtime_event") :
    ∃ rawType iteration, x = unknownReading p rawType iteration := by
  unfold readEvent at h
  simp only at h
  split at h
  · cases h
  split at h
  · cases h
  split at h
  · cases h
  · obtain ⟨_, -, typed⟩ := bind_ok h
    exact unknown_of_readTyped typed unknown

theorem unknownReading_eq {rawType rawType' : String} {iteration iteration' : Value}
    (same : (unknownReading p rawType iteration).discriminator
      = (unknownReading p rawType' iteration').discriminator) :
    unknownReading p rawType iteration = unknownReading p rawType' iteration' := by
  obtain ⟨rfl, rfl⟩ := same
  rfl

theorem identity_eq_iff :
    p.identity x = p.identity y ↔ x.eventType = y.eventType ∧ x.discriminator = y.discriminator := by
  simp [identity]

/-- Two projected events of one attempt with the same durable ids have the same payload and
resources, unless they clash: the type and the discriminator are all that the ids are made of. -/
theorem collision_iff (hexadecimal : Hexadecimal host) (p : CanonicalSemanticEventProjector)
    (w v : Surroundings) (e f : Value) {x y : Reading}
    (readE : p.readEvent host w e = .ok (some x)) (readF : p.readEvent host v f = .ok (some y))
    (tells : host.digest (p.identity x) = host.digest (p.identity y) →
      p.identity x = p.identity y)
    {d d' : SemanticEventDraft} (projected : p.project host w e = .ok (some d))
    (projected' : p.project host v f = .ok (some d')) :
    (d.eventId = d'.eventId ∧ d.operationId = d'.operationId →
      d.payload = d'.payload ∧ d.resourceRefs = d'.resourceRefs) ↔ ¬ Clash host x y := by
  obtain ⟨x', read, made⟩ := project_ok projected
  cases read.symm.trans readE
  obtain ⟨y', read', made'⟩ := project_ok projected'
  cases read'.symm.trans readF
  obtain ⟨eventId, operationId, payload, refs⟩ := draft_ok hexadecimal made
  obtain ⟨eventId', operationId', payload', refs'⟩ := draft_ok hexadecimal made'
  have alike : d.payload = d'.payload ∧ d.resourceRefs = d'.resourceRefs ↔
      recorded host x = recorded host y ∧ x.resourceRefs = y.resourceRefs := by
    rw [payload, payload', refs, refs', Except.ok.injEq]
  constructor
  · intro agree clash
    have same : p.identity x = p.identity y :=
      identity_eq_iff.mpr ⟨clash.eventType, clash.discriminator⟩
    apply clash.differ
    apply alike.mp
    apply agree
    rw [eventId, eventId', operationId, operationId', same]
    exact ⟨rfl, rfl⟩
  · rintro apart ⟨sameId, -⟩
    have digests : host.digest (p.identity x) = host.digest (p.identity y) := by
      rw [eventId, eventId'] at sameId
      simpa using sameId
    obtain ⟨sameType, sameDiscriminator⟩ := identity_eq_iff.mp (tells digests)
    apply alike.mpr
    by_cases unknown : x.eventType = "runtime_event"
    · obtain ⟨rawType, iteration, rfl⟩ := unknown_of_read readE unknown
      obtain ⟨rawType', iteration', rfl⟩ := unknown_of_read readF (sameType ▸ unknown)
      rw [unknownReading_eq sameDiscriminator]
      exact ⟨rfl, rfl⟩
    · by_contra differ
      exact apart ⟨sameType, unknown, sameDiscriminator, differ⟩

end Collision

/-! ### Two updates of one artifact -/

def zeroHost : Host := { plainHost with digest := fun _ => String.ofList (List.replicate 64 '0') }

theorem hexadecimal_zeroHost : Hexadecimal zeroHost where
  digest _ := (by decide : isSha256 (zeroHost.digest .none) = true)
  ascii _ _ := rfl

def idleSurroundings : Surroundings where
  artifactizeToolResult _ _ := .error (.valueError "")
  projectToolOutput _ _ _ := .error (.valueError "")
  lookupToolExecutionReceipts _ := .error (.valueError "")

def runProjector : CanonicalSemanticEventProjector := ⟨⟨⟨"execution", "generation"⟩, "run"⟩, false⟩

def planUpdated (callId step : String) : Value :=
  .dict [("type", .str "artifact_updated"), ("run_id", .str "run"), ("iteration", .int 0),
    ("tool_name", .str "update_plan"), ("call_id", .str callId), ("artifact_id", .str "plan"),
    ("plan_id", .str "plan"),
    ("artifact", .dict [("artifact_id", .str "plan"), ("step", .str step)])]

def planReading (callId step : String) : Reading where
  eventType := "artifact_updated"
  discriminator := [("iteration", .int 0), ("discriminator", .str "artifact_id:plan")]
  payload := [("run_id", .str "run"), ("iteration", .int 0), ("tool_name", .str "update_plan"),
    ("call_id", .str callId), ("artifact_id", .str "plan"), ("plan_id", .str "plan"),
    ("artifact", .dict [("artifact_id", .str "plan"), ("step", .str step)])]
  protectedFields := [("run_id", .str "run")]
  resourceRefs := []

def planDraft (callId step : String) : SemanticEventDraft where
  eventId := "event-" ++ zeroHost.digest .none
  eventType := "artifact_updated"
  attempt := runProjector.attempt
  operationId := "operation-" ++ zeroHost.digest .none
  payload := .dict (planReading callId step).payload
  resourceRefs := []

theorem read_first : runProjector.readEvent zeroHost idleSurroundings (planUpdated "call_1" "a")
    = .ok (some (planReading "call_1" "a")) := by
  decide +kernel

theorem read_second : runProjector.readEvent zeroHost idleSurroundings (planUpdated "call_2" "b")
    = .ok (some (planReading "call_2" "b")) := by
  decide +kernel

theorem project_first : runProjector.project zeroHost idleSurroundings (planUpdated "call_1" "a")
    = .ok (some (planDraft "call_1" "a")) := by
  decide +kernel

theorem project_second : runProjector.project zeroHost idleSurroundings (planUpdated "call_2" "b")
    = .ok (some (planDraft "call_2" "b")) := by
  decide +kernel

theorem collision_iff_sample :
    ((planDraft "call_1" "a").eventId = (planDraft "call_2" "b").eventId ∧
        (planDraft "call_1" "a").operationId = (planDraft "call_2" "b").operationId →
      (planDraft "call_1" "a").payload = (planDraft "call_2" "b").payload ∧
        (planDraft "call_1" "a").resourceRefs = (planDraft "call_2" "b").resourceRefs) ↔
      ¬ Clash zeroHost (planReading "call_1" "a") (planReading "call_2" "b") :=
  collision_iff hexadecimal_zeroHost runProjector idleSurroundings idleSurroundings
    (planUpdated "call_1" "a") (planUpdated "call_2" "b") read_first read_second (fun _ => rfl)
    project_first project_second

/-- Two calls of one iteration that update one artifact get one operation with two payloads. -/
theorem plan_updates_collide :
    ∃ d d', runProjector.project zeroHost idleSurroundings (planUpdated "call_1" "a")
        = .ok (some d) ∧
      runProjector.project zeroHost idleSurroundings (planUpdated "call_2" "b") = .ok (some d') ∧
      (SemanticEventDraft.eventId d = d'.eventId ∧ d.operationId = d'.operationId ∧
        d.payload ≠ d'.payload) :=
  ⟨planDraft "call_1" "a", planDraft "call_2" "b", project_first, project_second, rfl, rfl,
    by decide⟩

end CanonicalSemanticEventProjector

end Unchain.Context
