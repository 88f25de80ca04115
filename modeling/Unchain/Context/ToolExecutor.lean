import Unchain.Context.ToolBoundary

/-!
The durable tool executor: the only code that calls a terminal tool handler.

`executeOnce` follows `_execute_once` from the first recovery to the receipt. What
it does to the world (journal, guard, artifacts, handler) are commands, so the
text below is the order in which one execution touches what others share.
-/

namespace Unchain.Context

open Lib Lib.Process Python Journal

variable (host : Host)

structure DurableToolExecutionRequest where
  toolName : String
  callId : String
  iteration : Int
  subject : DurableToolExecutionSubject
  toolResultPolicy : String

/-- An executor: its boundary, the guard it was bound to and the identity of its
`_invocation_authority`. -/
structure DurableToolExecutor where
  identity : Nat
  boundary : DurableToolBoundary
  executionGuard : Nat
  rootExecutionGuard : Nat
  executionGuardChain : List GuardNode

structure DurableToolCompletionReceipt where
  attempt : AttemptRef
  toolName : String
  callId : String
  iteration : Int
  executionSubject : DurableToolExecutionSubject
  currentExecutionFence : ExecutionFence
  visibleResult : Value
  shouldObserve : Bool
  resultArtifact : ArtifactRef
  completionArtifact : ArtifactRef
  journalCursor : EventCursor
  transition : Option StateTransition
  reused : Bool
  modelProjection : Value

/-! ### Checks -/

/-- `_same_canonical_json`. -/
def sameCanonicalJson (left right : Value) : Except PyError Bool := do
  let leftDigest ← onInvalid
    (contractError "left JSON comparison value is not canonical JSON")
    (canonicalDigest host (.dict [("value", left)]))
  let rightDigest ← onInvalid
    (contractError "right JSON comparison value is not canonical JSON")
    (canonicalDigest host (.dict [("value", right)]))
  .ok (leftDigest = rightDigest)

variable (executor : DurableToolExecutor) (request : DurableToolExecutionRequest)

/-- `_assert_live_guard`. -/
def assertLiveGuard : Exec ExecutionFence := do
  let live ← Exec.resolveGuard executor.identity
  Prog.raiseIf (live.root ≠ executor.rootExecutionGuard)
    (contractError "execution guard root changed after bootstrap binding")
  Prog.raiseIf (!sameExecutionGuardChain live.chain executor.executionGuardChain)
    (contractError "execution guard chain changed after bootstrap binding")
  Prog.raiseIf (live.fence ≠ request.subject.executionFence)
    (contractError "request does not match the live execution fence")
  return live.fence

/-- `_validate_invocation`: the binding is consumed by the first execution that presents
it. -/
def validateInvocation (invocation : DurableToolInvocation) : Exec DurableToolInvocation := do
  let popped ← Exec.popBinding executor.identity invocation.identity
  match popped with
  | none =>
    Prog.raise (contractError "tool invocation route is not this executor's runtime binding")
  | some binding =>
    let subject := request.subject
    let digest ← Prog.lift (canonicalDigest host binding.effectiveArguments)
    Prog.raiseIf (invocation.executorAuthority ≠ executor.identity
        || invocation.routeKind ≠ binding.routeKind
        || invocation.routeManifestSha256 ≠ binding.routeManifestSha256
        || invocation.terminalHandlerManifestSha256 ≠ binding.terminalHandlerManifestSha256
        || !invocation.effectiveArguments.eqPy binding.effectiveArguments
        || invocation.terminalHandler ≠ binding.terminalHandler
        || digest ≠ subject.effectiveArgumentsSha256
        || binding.routeKind ≠ subject.routeKind
        || binding.routeManifestSha256 ≠ subject.routeManifestSha256
        || binding.terminalHandlerManifestSha256 ≠ subject.terminalHandlerManifestSha256)
      (contractError "tool invocation route does not match its durable subject")
    return binding

variable (authorization : DurableToolAuthorization)

/-- `_canonical_authorization`: the authorization is this boundary's own, and is built
again from its fields. -/
def canonicalAuthorization (authority : Nat) : Except PyError DurableToolAuthorization :=
  if authorization.authority ≠ authority then
    .error (contractError "tool authorization is not runtime-owned")
  else do
    let subject ← authorization.executionSubject.coerce host
    (DurableToolAuthorization.make host authorization.disposition authorization.toolName
      authorization.callId authorization.iteration subject authorization.startedCursor
      (some authorization.currentExecutionFence) authorization.resultArtifact
      authorization.completionArtifact authorization.resultCursor authorization.visibleResult
      authority).mapError
        (rewriting isRecordError (contractError "tool authorization contains invalid records"))

/-- The authorization the journal backs, for the dispositions that carry a result. -/
def recoveredAuthorization (recovery : ToolSideEffectRecovery)
    (canonical : DurableToolAuthorization) (changed : String) : Exec DurableToolAuthorization := do
  let expected ← authorizationFromRecovery host executor.boundary recovery
    ⟨request.toolName, request.callId, request.iteration, request.subject⟩
  let expected ← Prog.lift (canonicalAuthorization host expected executor.boundary.authority)
  let sameResult ← Prog.lift
    (sameCanonicalJson host canonical.visibleResult expected.visibleResult)
  Prog.raiseIf (!canonical.same expected || !sameResult) (contractError changed)
  return expected

variable (currentFence : ExecutionFence)

/-- `_validate_authorization`: the authorization is compared with what the journal says
now. -/
def validateAuthorization : Exec DurableToolAuthorization := do
  let boundary := executor.boundary
  let notExact := contractError "tool authorization is not this boundary's exact receipt"
  let canonical ← Prog.lift ((canonicalAuthorization host authorization boundary.authority).mapError
    (rewriting isContractError notExact))
  Prog.raiseIf (canonical.toolName ≠ request.toolName || canonical.callId ≠ request.callId
      || canonical.iteration ≠ request.iteration
      || canonical.currentExecutionFence ≠ currentFence) notExact
  let recovery ← recoverToolSideEffect host boundary.attempt request.callId
  match canonical.disposition with
  | .execute =>
    Prog.raiseIf (canonical.executionSubject ≠ request.subject
        || recovery.state ≠ .uncertainAfterStart)
      (contractError "execute authorization is not backed by tool.started")
    Prog.lift (verifyIntent host boundary.attempt recovery.intentEvent request.toolName
      request.iteration request.subject)
    let recorded ← Prog.lift (verifyRecoveryIdentity host recovery.startedEvent
      request.toolName request.callId request.iteration request.subject false)
    let changed := contractError "execute authorization changed its durable started receipt"
    Prog.raiseIf (recorded ≠ request.subject) changed
    let startedCursor ← Prog.lift (eventCursor recovery.startedEvent)
    let expected ← Prog.lift (DurableToolAuthorization.make host .execute request.toolName
      request.callId request.iteration request.subject startedCursor (some currentFence)
      none none none .none boundary.authority)
    let expected ← Prog.lift (canonicalAuthorization host expected boundary.authority)
    Prog.raiseIf (!canonical.same expected) changed
    return expected
  | .finalize =>
    Prog.raiseIf (recovery.state ≠ .sealedCompletionFinalizable)
      (contractError "finalize authorization is not backed by a sealed completion")
    recoveredAuthorization host executor request recovery canonical
      "finalize authorization changed its sealed completion"
  | .reuse =>
    Prog.raiseIf (recovery.state ≠ .terminalResultReusable)
      (contractError "tool authorization has an invalid disposition")
    recoveredAuthorization host executor request recovery canonical
      "reuse authorization changed its durable terminal receipt"

/-- `_validate_result_receipt`, on a receipt this boundary built. -/
def validateResultReceipt (receipt : DurableToolResultReceipt)
    (resultArtifact completionArtifact : ArtifactRef) (envelope : DurableToolCompletionEnvelope) :
    Exec DurableToolResultReceipt := do
  let boundary := executor.boundary
  Prog.raiseIf (receipt.authority ≠ boundary.authority)
    (contractError "durable result receipt is not runtime-owned")
  let recovery ← recoverToolSideEffect host boundary.attempt request.callId
  Prog.raiseIf (recovery.state ≠ .terminalResultReusable)
    (contractError "durable result receipt has no terminal journal event")
  let expected ← authorizationFromRecovery host boundary recovery
    ⟨request.toolName, request.callId, request.iteration, request.subject⟩
  let expected ← Prog.lift (canonicalAuthorization host expected boundary.authority)
  let subjectSha256 ← Prog.lift (authorization.executionSubject.sha256 host)
  let samePrepared ← Prog.lift
    (sameCanonicalJson host receipt.visibleResult envelope.visibleResult)
  let sameExpected ← Prog.lift
    (sameCanonicalJson host receipt.visibleResult expected.visibleResult)
  Prog.raiseIf (receipt.attempt ≠ boundary.attempt || receipt.toolName ≠ request.toolName
      || receipt.callId ≠ request.callId || receipt.iteration ≠ request.iteration
      || receipt.executionSubject ≠ authorization.executionSubject
      || receipt.executionSubjectSha256 ≠ subjectSha256
      || receipt.artifact ≠ resultArtifact || expected.resultArtifact ≠ some receipt.artifact
      || receipt.completionArtifact ≠ some completionArtifact
      || receipt.completionArtifact ≠ expected.completionArtifact
      || !samePrepared || !sameExpected || expected.resultCursor ≠ some receipt.cursor
      || (receipt.duplicate && authorization.disposition ≠ .finalize))
    (contractError "durable result receipt changed its journal binding")
  return receipt

/-! ### The execution -/

/-- `_receipt`. -/
def completionReceipt (envelope : DurableToolCompletionEnvelope) (completionArtifact : ArtifactRef)
    (cursor : EventCursor) (modelProjection : Value) (currentFence : ExecutionFence)
    (reused : Bool) : Except PyError DurableToolCompletionReceipt := do
  let subject ← envelope.executionSubject.coerce host
  .ok ⟨envelope.attempt, envelope.toolName, envelope.callId, envelope.iteration, subject,
    currentFence, envelope.visibleResult, envelope.shouldObserve, envelope.resultArtifact,
    completionArtifact, cursor, envelope.transition, reused, modelProjection⟩

def sameSubject (envelope : DurableToolCompletionEnvelope) : Bool :=
  envelope.attempt = executor.boundary.attempt && envelope.toolName = request.toolName
    && envelope.callId = request.callId && envelope.iteration = request.iteration
    && envelope.executionSubject = authorization.executionSubject
    && authorization.resultArtifact = some envelope.resultArtifact

/-- `_recover_completion`. -/
def recoverCompletion : Exec DurableToolCompletionReceipt := do
  match authorization.completionArtifact, authorization.resultCursor with
  | some completionArtifact, some resultCursor =>
    Prog.raiseIf authorization.resultArtifact.isNone
      (contractError "reusable tool result has no durable completion artifact")
    let content ← Exec.readFull completionArtifact
    Prog.raiseIf (completionArtifact.preview ≠ content.preview)
      (contractError "durable completion preview changed")
    match content.json with
    | none => Prog.raise (contractError "durable completion artifact is not valid JSON")
    | some decoded =>
      let envelope ← Prog.lift (DurableToolCompletionEnvelope.fromDict host decoded)
      forSome Exec.loadVerifiedSubagentState envelope.transition
      let sameResult ← Prog.lift
        (sameCanonicalJson host envelope.visibleResult authorization.visibleResult)
      Prog.raiseIf (!sameSubject executor request authorization envelope || !sameResult)
        (contractError "durable completion artifact changed its execution subject")
      let recovery ← recoverToolSideEffect host executor.boundary.attempt request.callId
      let projection := (recovery.resultEvent.map (·.payload.get "model_projection")).getD .none
      Prog.lift (completionReceipt host envelope completionArtifact resultCursor projection
        currentFence true)
  | _, _ => Prog.raise (contractError "reusable tool result has no durable completion artifact")

/-- `_finalize_sealed_completion`. -/
def finalizeSealedCompletion : Exec DurableToolCompletionReceipt := do
  match authorization.resultArtifact, authorization.completionArtifact with
  | some resultArtifact, some completionArtifact =>
    let content ← Exec.readFull completionArtifact
    match content.json with
    | none => Prog.raise (contractError "sealed completion artifact is not valid JSON")
    | some decoded =>
      let envelope ← Prog.lift (DurableToolCompletionEnvelope.fromDict host decoded)
      let sameResult ← Prog.lift
        (sameCanonicalJson host envelope.visibleResult authorization.visibleResult)
      match envelope.transition with
      | none =>
        Prog.raise (contractError "sealed completion artifact changed its execution subject")
      | some transition =>
        Prog.raiseIf (!sameSubject executor request authorization envelope || !sameResult)
          (contractError "sealed completion artifact changed its execution subject")
        Exec.loadVerifiedSubagentState transition
        let receipt ← persistPreparedResult host executor.boundary authorization
          ⟨resultArtifact, envelope.visibleResult⟩ ⟨completionArtifact, envelope.toDict⟩
          request.toolResultPolicy
        let receipt ← validateResultReceipt host executor request authorization receipt
          resultArtifact completionArtifact envelope
        Prog.lift (completionReceipt host envelope completionArtifact receipt.cursor
          receipt.modelProjection currentFence true)
  | _, _ => Prog.raise (contractError "sealed completion has incomplete artifact descriptors")

def persistTransition (subjectSha256 : String) :
    Option StateTransitionDraft → Exec (Option StateTransition)
  | none => pure none
  | some draft => do
    let nextStateArtifact ← Exec.persistExactJson draft.nextState
      ("artifact.tool-next-state." ++ subjectSha256)
      (.dict [("kind", .str "durable_tool_next_state"),
        ("attempt", executor.boundary.attempt.toDict), ("call_id", .str request.callId),
        ("execution_subject_sha256", .str subjectSha256)])
    let baseSha256 ← Prog.lift (canonicalDigest host draft.baseState)
    let transition ← Prog.lift (StateTransition.make host executor.boundary.attempt
      (.str request.callId) (.str subjectSha256)
      (.str ("transition.subagent-completion." ++ subjectSha256)) (.str draft.kind)
      (.str baseSha256) nextStateArtifact draft.handoffRefs)
    Exec.loadVerifiedSubagentState transition
    return some transition

def sealTransition (resultArtifact completionArtifact : ArtifactRef)
    (transition : StateTransition) : Exec Unit := do
  let _ ← persistSealedCompletion host executor.boundary authorization resultArtifact
    completionArtifact transition
  let _ ← assertLiveGuard executor request

/-- `_execute_once` after the handler returned: artifacts, seal, result and receipt. -/
def persistCompletion (draft : DurableToolCompletionDraft) : Exec DurableToolCompletionReceipt := do
  let subjectSha256 ← Prog.lift (request.subject.sha256 host)
  let result ← Exec.artifactizeToolResult draft.result ("artifact.tool-result." ++ subjectSha256)
  let result ← Exec.verifyToolResultArtifactization result
  let transition ← persistTransition host executor request subjectSha256 draft.stateTransition
  let envelope ← Prog.lift (DurableToolCompletionEnvelope.make host executor.boundary.attempt
    (.str request.toolName) (.str request.callId) (.int request.iteration) request.subject
    (.str subjectSha256) result.artifact result.visibleResult (.bool draft.shouldObserve)
    transition)
  let completion ← Exec.artifactizeToolCompletion envelope.toDict
    ("artifact.tool-completion." ++ subjectSha256)
  let completion ← Exec.verifyToolCompletionArtifactization completion
  let persisted ← Prog.lift (DurableToolCompletionEnvelope.fromDict host completion.completion)
  let persistedDigest ← Prog.lift (canonicalDigest host persisted.toDict)
  let envelopeDigest ← Prog.lift (canonicalDigest host envelope.toDict)
  Prog.raiseIf (persistedDigest ≠ envelopeDigest)
    (contractError "tool completion sanitizer changed protected semantics")
  let _ ← assertLiveGuard executor request
  forSome (sealTransition host executor request authorization result.artifact completion.artifact)
    persisted.transition
  let receipt ← persistPreparedResult host executor.boundary authorization result completion
    request.toolResultPolicy
  let receipt ← validateResultReceipt host executor request authorization receipt result.artifact
    completion.artifact persisted
  let sameResult ← Prog.lift
    (sameCanonicalJson host receipt.visibleResult persisted.visibleResult)
  Prog.raiseIf (receipt.artifact ≠ result.artifact
      || receipt.completionArtifact ≠ some completion.artifact || !sameResult)
    (contractError "durable result receipt changed the prepared completion")
  let currentFence ← assertLiveGuard executor request
  Prog.lift (completionReceipt host persisted completion.artifact receipt.cursor
    receipt.modelProjection currentFence false)

/-- `_execute_once`, after the authorization was validated. -/
def actOn (bound : Option DurableToolInvocation) (authorization : DurableToolAuthorization)
    (currentFence : ExecutionFence) : Exec DurableToolCompletionReceipt :=
  match authorization.disposition with
  | .reuse => do
    let _ ← assertLiveGuard executor request
    let recovered ← recoverCompletion host executor request authorization currentFence
    let _ ← assertLiveGuard executor request
    return recovered
  | .finalize => do
    let _ ← assertLiveGuard executor request
    let finalized ← finalizeSealedCompletion host executor request authorization currentFence
    let _ ← assertLiveGuard executor request
    return finalized
  | .execute =>
    match bound with
    | none => Prog.raise (contractError "fresh execution lost its runtime-owned invocation")
    | some invocation => do
      let _ ← assertLiveGuard executor request
      let returned ← Exec.callHandler executor.boundary.attempt request.callId
        invocation.terminalHandler invocation.effectiveArguments
      match returned with
      | none =>
        Prog.raise
          (.raised "DurableToolInvocationFailedError" "durable_tool_invocation_failed")
      | some none =>
        Prog.raise (contractError "tool invocation must return a typed completion draft")
      | some (some draft) =>
        let _ ← assertLiveGuard executor request
        persistCompletion host executor request authorization draft

/-- The invocation a fresh execution is bound to; nothing is consumed once a start is
durable. -/
def bindFresh (invocation : Option DurableToolInvocation) (recovery : ToolSideEffectRecovery) :
    Exec (Option DurableToolInvocation) :=
  if recovery.state = .notStarted then
    match invocation with
    | none => Prog.raise (contractError "fresh execution requires a DurableToolInvocation")
    | some invocation => do
      let bound ← validateInvocation host executor request invocation
      return some bound
  else pure none

/-- `_execute_once`. -/
def executeOnce (guard : Option Nat) (invocation : Option DurableToolInvocation) :
    Exec DurableToolCompletionReceipt := do
  let coerced ← Prog.lift (request.subject.coerce host)
  Prog.raiseIf (coerced ≠ request.subject)
    (contractError "executor execution subject is not canonical")
  Prog.raiseIf (guard.any (· ≠ executor.executionGuard))
    (contractError "tool execution guard is not the attempt bootstrap binding")
  let recovery ← recoverToolSideEffect host executor.boundary.attempt request.callId
  let bound ← bindFresh host executor request invocation recovery
  let currentFence ← assertLiveGuard executor request
  let authorization ← authorizeExecution host executor.boundary request.toolName request.callId
    request.iteration request.subject
  let authorization ← validateAuthorization host executor request authorization currentFence
  actOn host executor request bound authorization currentFence

end Unchain.Context
