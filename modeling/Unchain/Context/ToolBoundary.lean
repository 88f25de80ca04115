import Unchain.Context.ToolRecords

/-!
The durable boundary around one tool call.

A call is authorised by a durable `tool.started` event, and only the append that
stores it first yields an authorization to execute; every other path ends in the
reuse of a stored result, the completion of a sealed one, or an exception.
-/

namespace Unchain.Context

open Lib Lib.Process Python Journal

variable (host : Host)

/-- A boundary: its attempt and the identity of its `_authority`. -/
structure DurableToolBoundary where
  attempt : AttemptRef
  authority : Nat

/-! ### The projector -/

/-- `CanonicalSemanticEventProjector._identity` of an event of one tool call. -/
def toolEventIdentity (attempt : AttemptRef) (eventType callId : String) : Value :=
  .dict [("attempt", attempt.toDict), ("event_type", .str eventType),
    ("discriminator", .dict [("call_id", .str callId)])]

/-- `_draft`: both identities come from the digest of the identity alone. -/
def projectDraft (attempt : AttemptRef) (eventType : String) (identity payload : Value)
    (resourceRefs : List ResourceRef) : Except PyError SemanticEventDraft :=
  SemanticEventDraft.make host ("event-" ++ host.digest identity) eventType attempt
    ("operation-" ++ host.digest identity) payload resourceRefs

/-- `_sanitize_payload`: the sanitizer may not change a protected field. -/
def sanitizePayload (eventType : String) (payload protectedFields : Dict) :
    Except PyError Value := do
  let sanitized ← host.sanitize eventType (.dict payload)
  if !sanitized.isDict then
    .error (projectionError "payload sanitizer must return an object")
  else
    match protectedFields.find? fun entry => !(sanitized.get entry.1).eqPy entry.2 with
    | some entry => .error (projectionError ("payload sanitizer changed protected " ++ entry.1))
    | none => .ok sanitized

variable (attempt : AttemptRef) (toolName callId : String) (iteration : Int)
  (subject : DurableToolExecutionSubject)

/-- `_tool_identity` and `_tool_execution_subject`: the fields every tool receipt carries. -/
def toolReceiptFields : Except PyError (String × Dict) := do
  let invalidIdentity := projectionError "tool boundary requires exact call and tool identity"
  let callId ← onInvalid invalidIdentity (requiredIdentifier host "call_id" (.str callId))
  let toolName ← onInvalid invalidIdentity (requiredIdentifier host "tool_name" (.str toolName))
  let parsed ← (DurableToolExecutionSubject.fromDict host subject.toDict).mapError
    (rewriting isRecordError (projectionError "tool execution subject schema is invalid"))
  let digest ← subject.sha256 host
  let digest ← onInvalid (projectionError "tool execution subject digest is invalid")
    (sha256Text "execution_subject_sha256" (.str digest))
  let expected ← parsed.sha256 host
  if expected ≠ digest then
    .error (projectionError "tool execution subject digest does not match")
  else
    .ok (callId, [("run_id", .str attempt.attemptId), ("iteration", .int iteration),
      ("tool_name", .str toolName), ("call_id", .str callId),
      ("execution_subject", parsed.toDict), ("execution_subject_sha256", .str digest)])

/-- `_project_tool_started`. -/
def projectToolStarted : Except PyError SemanticEventDraft := do
  let (callId, payload) ← toolReceiptFields host attempt toolName callId iteration subject
  let sanitized ← sanitizePayload host "tool.started" payload payload
  projectDraft host attempt "tool.started" (toolEventIdentity attempt "tool.started" callId)
    sanitized []

/-- `project_sealed_tool_completion`. -/
def projectSealedToolCompletion (resultArtifact completionArtifact : ArtifactRef)
    (transition : StateTransition) : Except PyError SemanticEventDraft := do
  let (callId, common) ← toolReceiptFields host attempt toolName callId iteration subject
  let nextStateArtifact := transition.nextStateArtifact
  let refs := transition.handoffRefs
  if [resultArtifact, completionArtifact, nextStateArtifact].any fun a =>
      a.ref.kind ≠ "artifact" || !a.ref.fragment.isEmpty || a.mediaType ≠ "application/json" then
    .error (projectionError "sealed completion requires exact whole JSON artifacts")
  else if refs.any fun ref => ref.kind ≠ "artifact" || !ref.fragment.isEmpty then
    .error (projectionError "sealed completion handoff refs are invalid")
  else
    let payload := common ++ [("result_artifact", resultArtifact.toDict),
      ("completion_artifact", completionArtifact.toDict),
      ("next_state_artifact", nextStateArtifact.toDict), ("transition", transition.toDict),
      ("handoff_refs", .list (refs.map ResourceRef.toDict))]
    let sanitized ← sanitizePayload host "tool.subagent_completion.sealed" payload payload
    projectDraft host attempt "tool.subagent_completion.sealed"
      (toolEventIdentity attempt "tool.subagent_completion.sealed" callId) sanitized
      (resultArtifact.ref :: completionArtifact.ref :: nextStateArtifact.ref :: refs)

/-- `project_prepared_tool_result`. -/
def projectPreparedToolResult (attempt : AttemptRef) (toolName callId : String) (iteration : Int)
    (policy : String) (subject : DurableToolExecutionSubject)
    (artifactization : ToolResultArtifactization) (completionArtifact : ArtifactRef) :
    Exec SemanticEventDraft := do
  Prog.raiseIf (completionArtifact.ref.kind ≠ "artifact"
      || completionArtifact.mediaType ≠ "application/json")
    (projectionError "tool completion must be a whole JSON artifact")
  let (callId, common) ← Prog.lift
    (toolReceiptFields host attempt toolName callId iteration subject)
  let projection ← Exec.projectToolOutput artifactization callId policy
  let completionFields : Dict := [("completion_ref", completionArtifact.ref.toDict),
    ("completion_bytes", .int completionArtifact.byteLength),
    ("completion_sha256", .str completionArtifact.sha256),
    ("completion_preview", .str completionArtifact.preview)]
  let projectionFields : Dict := match projection with
    | some (result, metadata) =>
      [("model_projection", .dict [("result", result), ("metadata", metadata)])]
    | none => []
  let preview := artifactization.artifact.preview
  let payload := common ++ artifactization.eventFields ++
    [("preview", .str preview),
      ("preview_truncated",
        .bool (artifactization.artifact.byteLength > (preview.utf8ByteSize : Int)))]
    ++ completionFields ++ projectionFields
  -- The iteration and the preview are the only fields the sanitizer may change.
  let protectedFields := common.filter (fun entry => entry.1 ≠ "iteration")
    ++ artifactization.eventFields ++ completionFields ++ projectionFields
  let sanitized ← Prog.lift (sanitizePayload host "tool_result" payload protectedFields)
  Prog.lift (projectDraft host attempt "tool_result"
    (toolEventIdentity attempt "tool_result" callId) sanitized
    [artifactization.fullOutputRef, completionArtifact.ref])

/-! ### Checks against the journal -/

/-- `_cursor`. -/
def eventCursor (event : Option JournalEvent) : Except PyError EventCursor :=
  match event with
  | some event => .ok event.cursor
  | none => .error (corruptError "durable tool receipt is missing")

/-- `_verify_intent`. -/
def verifyIntent (attempt : AttemptRef) (intent : Option JournalEvent) (toolName : String)
    (iteration : Int) (subject : DurableToolExecutionSubject) : Except PyError Unit :=
  if subject.executionFence.executionId ≠ attempt.executionId then
    .error (corruptError "execution fence does not match the tool execution")
  else
    match intent with
    | none => .error (corruptError "tool call intent is missing")
    | some intent =>
      if intent.eventType ≠ "tool_call" then .error (corruptError "tool call intent is missing")
      else if !(intent.payload.get "tool_name").eqPy (.str toolName)
          || !(intent.payload.get "iteration").eqPy (.int iteration) then
        .error (corruptError "tool call intent identity does not match the request")
      else if intent.cursor ≠ subject.intentCursor then
        .error (corruptError "tool call intent cursor changed")
      else do
        let digest ← canonicalDigest host (intent.payload.getD "arguments" (.dict []))
        if digest ≠ subject.originalArgumentsSha256 then
          .error (corruptError "original arguments digest changed")
        else .ok ()

/-- The fence in force may be the recorded one or, where a newer owner takes over, a later
one. -/
def fenceChanged (recorded current : ExecutionFence) (allowNewerFence : Bool) : Bool :=
  if allowNewerFence then
    current.executionId ≠ recorded.executionId || current.fencingToken < recorded.fencingToken
      || (current.fencingToken = recorded.fencingToken && current.ownerId ≠ recorded.ownerId)
  else current ≠ recorded

def changedField (actual expected : DurableToolExecutionSubject) : Option String :=
  ([("intent cursor", decide (actual.intentCursor = expected.intentCursor)),
    ("original arguments",
      decide (actual.originalArgumentsSha256 = expected.originalArgumentsSha256)),
    ("effective arguments",
      decide (actual.effectiveArgumentsSha256 = expected.effectiveArgumentsSha256)),
    ("approval state", decide (actual.approvalState = expected.approvalState)),
    ("approval request", decide (actual.approvalRequestSha256 = expected.approvalRequestSha256)),
    ("approval receipt", decide (actual.approvalReceiptSha256 = expected.approvalReceiptSha256)),
    ("route kind", decide (actual.routeKind = expected.routeKind)),
    ("route manifest", decide (actual.routeManifestSha256 = expected.routeManifestSha256)),
    ("terminal handler", decide
      (actual.terminalHandlerManifestSha256 = expected.terminalHandlerManifestSha256))].find?
    fun entry => !entry.2).map Prod.fst

variable (event : JournalEvent)

/-- `_verify_event_subject`. -/
def verifyEventSubject (expected : DurableToolExecutionSubject) (allowNewerFence : Bool) :
    Except PyError DurableToolExecutionSubject := do
  let invalid := corruptError "durable tool receipt execution subject is invalid"
  let actual ← onInvalid invalid
    (DurableToolExecutionSubject.fromDict host (event.payload.get "execution_subject"))
  let actualDigest ← onInvalid invalid
    (sha256Text "execution_subject_sha256" (event.payload.get "execution_subject_sha256"))
  let digest ← actual.sha256 host
  if actualDigest ≠ digest then
    .error (corruptError "durable tool receipt execution subject digest changed")
  else
    match changedField actual expected with
    | some field => .error (corruptError ("durable tool receipt " ++ field ++ " changed"))
    | none =>
      if fenceChanged actual.executionFence expected.executionFence allowNewerFence then
        .error (corruptError "durable tool receipt execution fence changed")
      else .ok actual

/-- `_verify_recovery_identity`. -/
def verifyRecoveryIdentity (event : Option JournalEvent) (toolName callId : String)
    (iteration : Int) (subject : DurableToolExecutionSubject) (allowNewerFence : Bool) :
    Except PyError DurableToolExecutionSubject :=
  match event with
  | none => .error (corruptError "durable tool receipt is missing")
  | some event =>
    if !(event.payload.get "tool_name").eqPy (.str toolName)
        || !(event.payload.get "call_id").eqPy (.str callId)
        || !(event.payload.get "iteration").eqPy (.int iteration) then
      .error (corruptError "durable tool receipt identity does not match the request")
    else if event.storeSeq ≤ subject.intentCursor.storeSeq then
      .error (corruptError "durable tool receipt does not follow its tool call intent")
    else verifyEventSubject host event subject allowNewerFence

/-- `_artifact_from_event`. -/
def artifactFromEvent : Except PyError ArtifactRef := do
  let artifact ← onInvalid
    (corruptError "persisted tool result artifact descriptor is invalid") (do
      let ref ← ResourceRef.fromDict host (event.payload.get "full_output_ref")
      ArtifactRef.make host ref (.str "application/json") (event.payload.get "result_bytes")
        (event.payload.get "result_sha256")
        (.str (((event.payload.get "preview").or (.str "")).toStr host.display)))
  if !event.resourceRefs.contains artifact.ref then
    .error (corruptError "persisted tool result artifact ref is not declared")
  else .ok artifact

/-- `_completion_artifact_from_event`. -/
def completionArtifactFromEvent : Except PyError (Option ArtifactRef) :=
  let present := ["completion_ref", "completion_bytes", "completion_sha256",
    "completion_preview"].map event.payload.hasKey
  if !present.any id then .ok none
  else if !present.all id then
    .error (corruptError "persisted tool completion descriptor is incomplete")
  else do
    let artifact ← onInvalid (corruptError "persisted tool completion descriptor is invalid") (do
      let ref ← ResourceRef.fromDict host (event.payload.get "completion_ref")
      ArtifactRef.make host ref (.str "application/json") (event.payload.get "completion_bytes")
        (event.payload.get "completion_sha256") (event.payload.get "completion_preview"))
    if !event.resourceRefs.contains artifact.ref then
      .error (corruptError "persisted tool completion ref is not declared")
    else .ok (some artifact)

/-- `_model_projection_from_event`. -/
def modelProjectionFromEvent : Except PyError Value :=
  let projection := event.payload.get "model_projection"
  if projection.isNone then .ok .none
  else if !projection.isDict then
    .error (corruptError "persisted tool result model projection is invalid")
  else host.freeze "model_projection" projection

def maxInlineToolResultBytes : Int := 16000

/-- What stands for a result too large to be shown inline. -/
def resultReference (artifact : ArtifactRef) (preview : String) : Value :=
  .dict [("preview", .str preview), ("full_output_ref", artifact.ref.toDict),
    ("content_bytes", .int artifact.byteLength), ("content_sha256", .str artifact.sha256)]

/-- `_verified_visible_result`. -/
def verifiedVisibleResult (artifact : ArtifactRef) (content : Option Content) :
    Except PyError Value := do
  let expected ← if artifact.byteLength ≤ maxInlineToolResultBytes then
      match content with
      | none => .error (corruptError "inline durable tool result requires verified content")
      | some content =>
        match content.json with
        | none => .error (corruptError "durable tool result artifact is not valid JSON")
        | some decoded =>
          if artifact.preview ≠ content.preview then
            .error (corruptError "durable tool result artifact preview changed")
          else .ok decoded
    else .ok (resultReference artifact artifact.preview)
  let invalid := corruptError "durable tool model-visible result is invalid"
  let actualDigest ← onInvalid invalid
    (canonicalDigest host (.dict [("result", event.payload.get "result")]))
  let expectedDigest ← onInvalid invalid (canonicalDigest host (.dict [("result", expected)]))
  if actualDigest ≠ expectedDigest then
    .error (corruptError "durable tool model-visible result disagrees with artifact")
  else .ok expected

/-- `_verify_completion_binding`. -/
def verifyCompletionBinding (attempt : AttemptRef) (raw : Value) (toolName callId : String)
    (iteration : Int) (subject : DurableToolExecutionSubject) (resultArtifact : ArtifactRef)
    (visibleResult : Value) : Except PyError Value := do
  let invalid := corruptError "durable tool completion identity is invalid"
  if !hasExactly raw DurableToolCompletionEnvelope.fields
      || !(raw.get "schema").eqPy (.str DurableToolCompletionEnvelope.schema)
      || !(raw.get "should_observe" matches .bool _) then
    .error invalid
  else
    let subjectSha256 ← subject.sha256 host
    let expected := Value.dict [("schema", .str DurableToolCompletionEnvelope.schema),
      ("attempt", attempt.toDict), ("tool_name", .str toolName), ("call_id", .str callId),
      ("iteration", .int iteration), ("execution_subject", subject.toDict),
      ("execution_subject_sha256", .str subjectSha256),
      ("result_artifact", resultArtifact.toDict), ("visible_result", visibleResult),
      ("should_observe", raw.get "should_observe"), ("transition", raw.get "transition")]
    let actualDigest ← onInvalid invalid (canonicalDigest host raw)
    let expectedDigest ← onInvalid invalid (canonicalDigest host expected)
    if actualDigest ≠ expectedDigest then
      .error (corruptError "durable tool completion identity changed")
    else .ok raw

def sealedFields : List String :=
  ["run_id", "iteration", "tool_name", "call_id", "execution_subject",
    "execution_subject_sha256", "result_artifact", "completion_artifact", "next_state_artifact",
    "transition", "handoff_refs"]

/-- `_verify_sealed_completion`; the transition is given as it is or parsed. -/
def verifySealedCompletion (attempt : AttemptRef) (event : Option JournalEvent)
    (toolName callId : String) (iteration : Int) (subject : DurableToolExecutionSubject)
    (resultArtifact completionArtifact : ArtifactRef)
    (transition : Except PyError StateTransition) : Except PyError Unit :=
  match event with
  | none => .error (corruptError "sealed completion receipt is missing")
  | some event =>
    let raw := event.payload
    if event.eventType ≠ "tool.subagent_completion.sealed" then
      .error (corruptError "sealed completion receipt is missing")
    else if !hasExactly raw sealedFields then
      .error (corruptError "sealed completion payload schema is invalid")
    else do
      let (sealedResult, sealedCompletion, sealedNext, sealedTransition, supplied) ← (do
          let sealedResult ← ArtifactRef.fromDict host (raw.get "result_artifact")
          let sealedCompletion ← ArtifactRef.fromDict host (raw.get "completion_artifact")
          let sealedNext ← ArtifactRef.fromDict host (raw.get "next_state_artifact")
          let sealedTransition ← StateTransition.fromDict host (raw.get "transition")
          let supplied ← transition
          pure (sealedResult, sealedCompletion, sealedNext, sealedTransition, supplied)
            : Except PyError _).mapError
        (rewriting isRecordError (corruptError "sealed completion descriptor is invalid"))
      let subjectSha256 ← subject.sha256 host
      if !(raw.get "run_id").eqPy (.str attempt.attemptId)
          || !(raw.get "iteration").eqPy (.int iteration)
          || !(raw.get "tool_name").eqPy (.str toolName)
          || !(raw.get "call_id").eqPy (.str callId)
          || !(raw.get "execution_subject").eqPy subject.toDict
          || !(raw.get "execution_subject_sha256").eqPy (.str subjectSha256)
          || sealedResult ≠ resultArtifact || sealedCompletion ≠ completionArtifact
          || sealedNext ≠ sealedTransition.nextStateArtifact
          || sealedTransition ≠ supplied then
        .error (corruptError "sealed completion changed its parent binding")
      else if event.resourceRefs ≠ resultArtifact.ref :: completionArtifact.ref ::
            sealedTransition.nextStateArtifact.ref :: sealedTransition.handoffRefs
          || !(raw.get "handoff_refs").eqPy
            (.list (sealedTransition.handoffRefs.map ResourceRef.toDict)) then
        .error (corruptError "sealed completion resource declarations changed")
      else .ok ()

/-! ### Authorization -/

/-- `_read_verified_completion`. -/
def readVerifiedCompletion (artifact : ArtifactRef) : Exec Value := do
  let content ← Exec.readFull artifact
  match content.json with
  | none =>
    Prog.raise (.raised "ArtifactServiceError" "durable completion artifact is not valid JSON")
  | some decoded =>
    let frozen ← Prog.lift (host.freeze "completion" decoded)
    let verified ← Exec.verifyToolCompletionArtifactization ⟨artifact, frozen⟩
    return verified.completion

/-- What both recoveries are asked for. -/
structure ToolCall where
  toolName : String
  callId : String
  iteration : Int
  subject : DurableToolExecutionSubject

variable (boundary : DurableToolBoundary) (recovery : ToolSideEffectRecovery)

variable (call : ToolCall) (recorded : DurableToolExecutionSubject)

/-- The sealed branch of `_authorization_from_recovery`. -/
def finalizeAuthorization : Exec DurableToolAuthorization := do
  match recovery.sealedEvent with
  | none => Prog.raise (corruptError "sealed completion receipt is missing")
  | some sealedEvent =>
    let raw := sealedEvent.payload
    let binding := rewriting isRecordError
      (corruptError "sealed completion artifact binding is invalid")
    let resultArtifact ← Prog.lift
      ((ArtifactRef.fromDict host (raw.get "result_artifact")).mapError binding)
    let completionArtifact ← Prog.lift
      ((ArtifactRef.fromDict host (raw.get "completion_artifact")).mapError binding)
    let completion ← (readVerifiedCompletion host completionArtifact).mapError binding
    let envelope ← Prog.lift
      ((DurableToolCompletionEnvelope.fromDict host completion).mapError binding)
    match envelope.transition with
    | none => Prog.raise (corruptError "sealed completion has no state transition")
    | some transition =>
      let startedCursor ← Prog.lift (eventCursor recovery.startedEvent)
      let executing ← Prog.lift (DurableToolAuthorization.make host .execute call.toolName
        call.callId call.iteration recorded startedCursor none none none none .none
        boundary.authority)
      Prog.lift (verifySealedCompletion host boundary.attempt (some sealedEvent)
        executing.toolName executing.callId executing.iteration executing.executionSubject
        resultArtifact completionArtifact (.ok transition))
      let content ← (Exec.readFull resultArtifact).mapError (rewriting isArtifactServiceError
        (corruptError "sealed result artifact failed verification"))
      match content.json with
      | none => Prog.raise (corruptError "sealed result artifact failed verification")
      | some decoded =>
        Prog.raiseIf (resultArtifact.preview ≠ content.preview)
          (corruptError "sealed result artifact preview changed")
        let visibleResult :=
          if resultArtifact.byteLength ≤ maxInlineToolResultBytes then decoded
          else resultReference resultArtifact content.preview
        let _ ← Prog.lift (verifyCompletionBinding host boundary.attempt completion
          call.toolName call.callId call.iteration recorded resultArtifact visibleResult)
        Prog.lift (DurableToolAuthorization.make host .finalize call.toolName call.callId
          call.iteration recorded startedCursor (some call.subject.executionFence)
          (some resultArtifact) (some completionArtifact) (some sealedEvent.cursor)
          visibleResult boundary.authority)

/-- The last checks of the terminal branch of `_authorization_from_recovery`: a stored
completion agrees with the result, and a transition with the seal. -/
def verifyStoredCompletion (resultArtifact : ArtifactRef) (visibleResult : Value)
    (completionArtifact : ArtifactRef) : Exec Unit := do
  let completion ← (readVerifiedCompletion host completionArtifact).mapError
    (rewriting isArtifactServiceError
      (corruptError "durable completion artifact failed verification"))
  let verified ← Prog.lift (verifyCompletionBinding host boundary.attempt completion call.toolName
    call.callId call.iteration recorded resultArtifact visibleResult)
  let transition := verified.get "transition"
  if transition.isNone then
    Prog.raiseIf recovery.sealedEvent.isSome
      (corruptError "durable seal has no completion transition")
  else
    Prog.raiseIf recovery.sealedEvent.isNone
      (corruptError "stateful tool completion has no durable seal")
    let startedCursor ← Prog.lift (eventCursor recovery.startedEvent)
    let executing ← Prog.lift (DurableToolAuthorization.make host .execute call.toolName
      call.callId call.iteration recorded startedCursor none none none none .none
      boundary.authority)
    Prog.lift (verifySealedCompletion host boundary.attempt recovery.sealedEvent
      executing.toolName executing.callId executing.iteration executing.executionSubject
      resultArtifact completionArtifact (StateTransition.fromDict host transition))

def readInline (artifact : ArtifactRef) : Exec (Option Content) :=
  if artifact.byteLength ≤ maxInlineToolResultBytes then do
    let content ← (Exec.readFull artifact).mapError (rewriting isArtifactServiceError
      (corruptError "durable recovery artifact failed verification"))
    return some content
  else pure none

/-- Do something with a value that may be absent. -/
def forSome {α : Type} (body : α → Exec Unit) : Option α → Exec Unit
  | some a => body a
  | none => pure ()

/-- The terminal branch of `_authorization_from_recovery`. -/
def reuseAuthorization : Exec DurableToolAuthorization := do
  let _ ← Prog.lift (verifyRecoveryIdentity host recovery.resultEvent call.toolName call.callId
    call.iteration recorded false)
  match recovery.reusableResultArtifact, recovery.resultEvent with
  | none, _ => Prog.raise (corruptError "durable tool result artifact is missing")
  | some _, none => Prog.raise (corruptError "durable tool result has no model-visible value")
  | some reusable, some resultEvent =>
    Prog.raiseIf (!resultEvent.payload.hasKey "result")
      (corruptError "durable tool result has no model-visible value")
    let resultArtifact ← Prog.lift (artifactFromEvent host resultEvent)
    Prog.raiseIf (resultArtifact ≠ reusable)
      (corruptError "durable recovery artifact descriptor changed")
    let content ← readInline resultArtifact
    let visibleResult ← Prog.lift (verifiedVisibleResult host resultEvent resultArtifact content)
    let completionArtifact ← Prog.lift (completionArtifactFromEvent host resultEvent)
    forSome (verifyStoredCompletion host boundary recovery call recorded resultArtifact
      visibleResult) completionArtifact
    let startedCursor ← Prog.lift (eventCursor recovery.startedEvent)
    Prog.lift (DurableToolAuthorization.make host .reuse call.toolName call.callId
      call.iteration recorded startedCursor (some call.subject.executionFence)
      (some resultArtifact) completionArtifact (some resultEvent.cursor) visibleResult
      boundary.authority)

/-- `_authorization_from_recovery`. -/
def authorizationFromRecovery (call : ToolCall) : Exec DurableToolAuthorization := do
  Prog.raiseIf (recovery.state = .corrupt)
    (corruptError (if recovery.reason.isEmpty then "durable tool receipts are corrupt"
      else recovery.reason))
  Prog.lift (verifyIntent host boundary.attempt recovery.intentEvent call.toolName call.iteration
    call.subject)
  let recorded ← Prog.lift (verifyRecoveryIdentity host recovery.startedEvent call.toolName
    call.callId call.iteration call.subject true)
  match recovery.state with
  | .uncertainAfterStart =>
    Prog.raise (uncertainError "tool execution may have started; automatic replay is forbidden")
  | .sealedCompletionFinalizable => finalizeAuthorization host boundary recovery call recorded
  | .terminalResultReusable => reuseAuthorization host boundary recovery call recorded
  | _ => Prog.raise (corruptError "durable tool recovery changed unexpectedly")

/-- `_authorization_after_race`. -/
def authorizationAfterRace (call : ToolCall) : Exec DurableToolAuthorization := do
  let recovery ← recoverToolSideEffect host boundary.attempt call.callId
  authorizationFromRecovery host boundary recovery call

/-- `authorize_execution`. -/
def authorizeExecution (toolName callId : String) (iteration : Int)
    (subject : DurableToolExecutionSubject) : Exec DurableToolAuthorization := do
  let toolName ← Prog.lift (requiredIdentifier host "tool_name" (.str toolName))
  let callId ← Prog.lift (requiredIdentifier host "call_id" (.str callId))
  let iteration ← Prog.lift (checkIteration (.int iteration))
  let call : ToolCall := ⟨toolName, callId, iteration, subject⟩
  let recovery ← recoverToolSideEffect host boundary.attempt callId
  Prog.lift (verifyIntent host boundary.attempt recovery.intentEvent toolName iteration subject)
  if recovery.state = .notStarted then
    let draft ← Prog.lift
      (projectToolStarted host boundary.attempt toolName callId iteration subject)
    let appended ← (appendProjected host boundary.attempt draft).mapError
      (rewriting isJournalConflict (corruptError "tool started atomic claim conflicted"))
    if appended.duplicate then authorizationAfterRace host boundary call
    else
      Prog.lift (DurableToolAuthorization.make host .execute toolName callId iteration subject
        appended.cursor none none none none .none boundary.authority)
  else authorizationFromRecovery host boundary recovery call

/-! ### Persisting a completion -/

variable (authorization : DurableToolAuthorization)

def verifyStarted (changed : String) : Except PyError Unit := do
  let _ ← verifyRecoveryIdentity host recovery.startedEvent authorization.toolName
    authorization.callId authorization.iteration authorization.executionSubject false
  let cursor ← eventCursor recovery.startedEvent
  if cursor ≠ authorization.startedCursor then .error (corruptError changed) else .ok ()

/-- `persist_sealed_completion`. -/
def persistSealedCompletion (resultArtifact completionArtifact : ArtifactRef)
    (transition : StateTransition) : Exec EventCursor := do
  Prog.raiseIf (authorization.authority ≠ boundary.authority
      || authorization.disposition ≠ .execute)
    (corruptError "sealed completion requires runtime-owned authorization")
  let subjectSha256 ← Prog.lift (authorization.executionSubject.sha256 host)
  Prog.raiseIf (transition.parentAttempt ≠ boundary.attempt
      || transition.callId ≠ authorization.callId
      || transition.executionSubjectSha256 ≠ subjectSha256)
    (corruptError "sealed completion transition changed its parent binding")
  let recovery ← recoverToolSideEffect host boundary.attempt authorization.callId
  match recovery.state with
  | .sealedCompletionFinalizable =>
    Prog.lift (verifySealedCompletion host boundary.attempt recovery.sealedEvent
      authorization.toolName authorization.callId authorization.iteration
      authorization.executionSubject resultArtifact completionArtifact
      (StateTransition.fromDict host transition.toDict))
    Prog.lift (eventCursor recovery.sealedEvent)
  | .uncertainAfterStart =>
    Prog.lift (verifyStarted host recovery authorization
      "tool started receipt changed before sealed completion")
    let draft ← Prog.lift (projectSealedToolCompletion host boundary.attempt
      authorization.toolName authorization.callId authorization.iteration
      authorization.executionSubject resultArtifact completionArtifact transition)
    let appended ← (appendProjected host boundary.attempt draft).mapError
      (rewriting isJournalConflict (corruptError "sealed completion atomic claim conflicted"))
    return appended.cursor
  | _ => Prog.raise (corruptError "sealed completion has no exact durable started receipt")

/-- The completion a result event refers to, read back and bound to the authorization. -/
def verifyPersistedCompletion (artifact : ArtifactRef) (visibleResult : Value)
    (completion : Value) : Exec Unit := do
  let _ ← Prog.lift (verifyCompletionBinding host boundary.attempt completion
    authorization.toolName authorization.callId authorization.iteration
    authorization.executionSubject artifact visibleResult)

def readPersistedCompletion : Option ArtifactRef → Exec (Option Value)
  | some artifact => do
    let completion ← (readVerifiedCompletion host artifact).mapError
      (rewriting isArtifactServiceError
        (corruptError "persisted tool artifact failed verification"))
    return some completion
  | none => pure none

/-- `_result_receipt`. -/
def resultReceipt (appended : JournalAppendResult) (authorization : DurableToolAuthorization) :
    Exec DurableToolResultReceipt := do
  let event := appended.event
  Prog.raiseIf (event.eventType ≠ "tool_result" || !event.payload.hasKey "result")
    (corruptError "persisted tool result receipt is invalid")
  let artifact ← Prog.lift (artifactFromEvent host event)
  let completionArtifact ← Prog.lift (completionArtifactFromEvent host event)
  let content ← (Exec.readFull artifact).mapError (rewriting isArtifactServiceError
    (corruptError "persisted tool artifact failed verification"))
  let completion ← readPersistedCompletion host completionArtifact
  let visibleResult ← Prog.lift (verifiedVisibleResult host event artifact (some content))
  let _ ← Prog.lift (verifyEventSubject host event authorization.executionSubject false)
  forSome (verifyPersistedCompletion host boundary authorization artifact visibleResult) completion
  let modelProjection ← Prog.lift (modelProjectionFromEvent host event)
  Prog.lift (DurableToolResultReceipt.make host event.attempt authorization.toolName
    authorization.callId authorization.iteration authorization.executionSubject visibleResult
    artifact appended.cursor modelProjection completionArtifact appended.duplicate
    boundary.authority)

/-- `persist_prepared_result` when the call's result is already durable: the stored result
is returned if it is the prepared one. -/
def reuseStoredResult (artifact completionArtifact : ArtifactRef) :
    Exec DurableToolResultReceipt := do
  let recovered ← authorizationFromRecovery host boundary recovery
    ⟨authorization.toolName, authorization.callId, authorization.iteration,
      authorization.executionSubject⟩
  Prog.raiseIf (recovered.resultArtifact ≠ some artifact
      || recovered.completionArtifact ≠ some completionArtifact)
    (corruptError "prepared tool result raced with a different completion")
  match recovery.resultEvent with
  | none => Prog.raise (corruptError "durable tool receipt is missing")
  | some event =>
    let modelProjection ← Prog.lift (modelProjectionFromEvent host event)
    Prog.lift (DurableToolResultReceipt.make host boundary.attempt authorization.toolName
      authorization.callId authorization.iteration authorization.executionSubject
      recovered.visibleResult artifact event.cursor modelProjection
      recovered.completionArtifact true boundary.authority)

def verifySealOf (artifact completionArtifact : ArtifactRef) (transition : Value) :
    Except PyError Unit :=
  if recovery.state = .sealedCompletionFinalizable then
    verifySealedCompletion host boundary.attempt recovery.sealedEvent authorization.toolName
      authorization.callId authorization.iteration authorization.executionSubject artifact
      completionArtifact (StateTransition.fromDict host transition)
  else if !transition.isNone then
    .error (corruptError "stateful tool completion has no durable seal")
  else .ok ()

/-- `persist_prepared_result`. -/
def persistPreparedResult (artifactization : ToolResultArtifactization)
    (completionArtifactization : ToolCompletionArtifactization) (policy : String) :
    Exec DurableToolResultReceipt := do
  Prog.raiseIf (authorization.authority ≠ boundary.authority
      || authorization.disposition = .reuse)
    (corruptError "prepared tool result requires this boundary's execute authorization")
  Prog.raiseIf (strip policy = "") (corruptError "prepared tool result policy is invalid")
  let policy := host.lower (strip policy)
  let failed := rewriting isArtifactServiceError
    (corruptError "prepared tool artifact failed verification")
  let artifactization ← (Exec.verifyToolResultArtifactization artifactization).mapError failed
  let completionArtifactization ←
    (Exec.verifyToolCompletionArtifactization completionArtifactization).mapError failed
  let _ ← Prog.lift (verifyCompletionBinding host boundary.attempt
    completionArtifactization.completion authorization.toolName authorization.callId
    authorization.iteration authorization.executionSubject artifactization.artifact
    artifactization.visibleResult)
  let recovery ← recoverToolSideEffect host boundary.attempt authorization.callId
  Prog.lift (verifyIntent host boundary.attempt recovery.intentEvent authorization.toolName
    authorization.iteration authorization.executionSubject)
  if recovery.state = .terminalResultReusable then
    reuseStoredResult host boundary recovery authorization artifactization.artifact
      completionArtifactization.artifact
  else do
    Prog.raiseIf (recovery.state ≠ .uncertainAfterStart
        && recovery.state ≠ .sealedCompletionFinalizable)
      (corruptError "prepared tool result has no exact durable started receipt")
    Prog.lift (verifyStarted host recovery authorization
      "tool started receipt changed after authorization")
    Prog.lift (verifySealOf host boundary recovery authorization artifactization.artifact
      completionArtifactization.artifact (completionArtifactization.completion.get "transition"))
    let draft ← projectPreparedToolResult host boundary.attempt authorization.toolName
      authorization.callId authorization.iteration policy authorization.executionSubject
      artifactization completionArtifactization.artifact
    let appended ← (appendProjected host boundary.attempt draft).mapError
      (rewriting isJournalConflict (corruptError "prepared tool result atomic claim conflicted"))
    resultReceipt host boundary appended authorization

end Unchain.Context
