import Unchain.Context.Ports

/-!
The records of a durable tool call: the subject that identifies the invocation, the
authorization that lets it run, the envelope of its completion and the receipt of its
result. Each is built by its `make`, with the checks of the dataclass.
-/

namespace Unchain.Context

open Lib Lib.Process Python Journal

variable (host : Host)

/-! ### The execution subject -/

inductive DurableToolApprovalState where
  | notRequired
  | approved
  | denied
deriving DecidableEq

def DurableToolApprovalState.value : DurableToolApprovalState → String
  | .notRequired => "not_required"
  | .approved => "approved"
  | .denied => "denied"

def DurableToolApprovalState.parse (v : Value) : Except PyError DurableToolApprovalState :=
  if v.eqPy (.str "not_required") then .ok .notRequired
  else if v.eqPy (.str "approved") then .ok .approved
  else if v.eqPy (.str "denied") then .ok .denied
  else .error (.valueError "not a valid DurableToolApprovalState")

def DurableToolRouteKind.value : DurableToolRouteKind → String
  | .normal => "normal"
  | .plugin => "plugin"

def DurableToolRouteKind.parse (v : Value) : Except PyError DurableToolRouteKind :=
  if v.eqPy (.str "normal") then .ok .normal
  else if v.eqPy (.str "plugin") then .ok .plugin
  else .error (.valueError "not a valid DurableToolRouteKind")

/-- `_iteration`. -/
def checkIteration : Value → Except PyError Int
  | .int n => if n < 0 then .error (corruptError "tool iteration is invalid") else .ok n
  | _ => .error (corruptError "tool iteration is invalid")

/-- `_canonical_digest`. -/
def canonicalDigest (v : Value) : Except PyError String := do
  let frozen ← host.freeze "durable_tool_subject" v
  .ok (host.digest frozen)

namespace ExecutionFence

/-- `_fence_to_dict`. -/
def toDict (fence : ExecutionFence) : Value :=
  .dict [("execution_id", .str fence.executionId), ("owner_id", .str fence.ownerId),
    ("fencing_sequence", .int fence.fencingToken)]

/-- `_validate_identifier`. -/
def validateIdentifier (name : String) : Value → Except PyError String
  | .str s =>
    if strip s = "" then .error (.valueError (name ++ " must be a non-empty string")) else .ok s
  | _ => .error (.valueError (name ++ " must be a non-empty string"))

/-- `_validate_positive_int`. -/
def validatePositiveInt (name : String) : Value → Except PyError Int
  | .int n =>
    if n ≤ 0 then .error (.valueError (name ++ " must be a positive integer")) else .ok n
  | _ => .error (.valueError (name ++ " must be a positive integer"))

/-- `ExecutionFence.__post_init__`. -/
def make (executionId ownerId fencingToken : Value) : Except PyError ExecutionFence := do
  let executionId ← validateIdentifier "execution_id" executionId
  let ownerId ← validateIdentifier "owner_id" ownerId
  let fencingToken ← validatePositiveInt "fencing_token" fencingToken
  .ok ⟨executionId, ownerId, fencingToken⟩

/-- `_fence_from_dict`. -/
def fromDict (v : Value) : Except PyError ExecutionFence :=
  if !hasExactly v ["execution_id", "owner_id", "fencing_sequence"] then
    .error (corruptError "execution fence is invalid")
  else make (v.get "execution_id") (v.get "owner_id") (v.get "fencing_sequence")

end ExecutionFence

structure DurableToolExecutionSubject where
  intentCursor : EventCursor
  originalArgumentsSha256 : String
  effectiveArgumentsSha256 : String
  approvalState : DurableToolApprovalState
  approvalRequestSha256 : String
  approvalReceiptSha256 : String
  routeKind : DurableToolRouteKind
  routeManifestSha256 : String
  terminalHandlerManifestSha256 : String
  executionFence : ExecutionFence
deriving DecidableEq

namespace DurableToolExecutionSubject

def schema : String := "unchain.durable_tool_execution_subject.v1"

def checkApproval (state : DurableToolApprovalState) (request receipt : String) :
    Except PyError Unit :=
  match state with
  | .notRequired =>
    if !request.isEmpty || !receipt.isEmpty then
      .error (corruptError "not_required approval cannot contain request or receipt digests")
    else .ok ()
  | _ =>
    if request.isEmpty || receipt.isEmpty then
      .error (corruptError "approval request and receipt digests are both required")
    else do
      let _ ← sha256Text "approval_request_sha256" (.str request)
      let _ ← sha256Text "approval_receipt_sha256" (.str receipt)
      .ok ()

/-- `__post_init__`. -/
def make (intentCursor : EventCursor) (original effective : Value)
    (approvalState : Except PyError DurableToolApprovalState) (request receipt : String)
    (routeKind : Except PyError DurableToolRouteKind) (route handler : Value)
    (fence : ExecutionFence) : Except PyError DurableToolExecutionSubject := do
  if intentCursor.storeSeq < 1 then
    .error (corruptError "tool call intent cursor must be durable")
  else
    let original ← sha256Text "original_arguments_sha256" original
    let effective ← sha256Text "effective_arguments_sha256" effective
    let approvalState ← approvalState
    checkApproval approvalState (strip request) (strip receipt)
    let routeKind ← routeKind
    let route ← sha256Text "route_manifest_sha256" route
    let handler ← sha256Text "terminal_handler_manifest_sha256" handler
    .ok ⟨intentCursor, original, effective, approvalState, strip request, strip receipt,
      routeKind, route, handler, fence⟩

variable (s : DurableToolExecutionSubject)

def toDict : Value :=
  .dict [("schema", .str schema), ("intent_cursor", s.intentCursor.toDict),
    ("original_arguments_sha256", .str s.originalArgumentsSha256),
    ("effective_arguments_sha256", .str s.effectiveArgumentsSha256),
    ("approval_state", .str s.approvalState.value),
    ("approval_request_sha256", .str s.approvalRequestSha256),
    ("approval_receipt_sha256", .str s.approvalReceiptSha256),
    ("route_kind", .str s.routeKind.value),
    ("route_manifest_sha256", .str s.routeManifestSha256),
    ("terminal_handler_manifest_sha256", .str s.terminalHandlerManifestSha256),
    ("execution_fence", s.executionFence.toDict)]

def sha256 : Except PyError String :=
  canonicalDigest host s.toDict

def fromDict (v : Value) : Except PyError DurableToolExecutionSubject :=
  if !v.isDict then .error (.typeError "execution subject must be an object")
  else if !hasExactly v ["schema", "intent_cursor", "original_arguments_sha256",
      "effective_arguments_sha256", "approval_state", "approval_request_sha256",
      "approval_receipt_sha256", "route_kind", "route_manifest_sha256",
      "terminal_handler_manifest_sha256", "execution_fence"]
      || !(v.get "schema").eqPy (.str schema) then
    .error (corruptError "execution subject schema is invalid")
  else do
    let cursor ← EventCursor.fromDict host (v.get "intent_cursor")
    let fence ← ExecutionFence.fromDict (v.get "execution_fence")
    make cursor (v.get "original_arguments_sha256") (v.get "effective_arguments_sha256")
      (DurableToolApprovalState.parse (v.get "approval_state"))
      (((v.get "approval_request_sha256").or (.str "")).toStr host.display)
      (((v.get "approval_receipt_sha256").or (.str "")).toStr host.display)
      (DurableToolRouteKind.parse (v.get "route_kind")) (v.get "route_manifest_sha256")
      (v.get "terminal_handler_manifest_sha256") fence

/-- `_coerce_execution_subject` on a subject: it is built again from its own fields. -/
def coerce : Except PyError DurableToolExecutionSubject :=
  let rebuilt := do
    let cursor ← EventCursor.make host (.int s.intentCursor.storeSeq) (.str s.intentCursor.eventId)
    let fence ← ExecutionFence.make (.str s.executionFence.executionId)
      (.str s.executionFence.ownerId) (.int s.executionFence.fencingToken)
    make cursor (.str s.originalArgumentsSha256) (.str s.effectiveArgumentsSha256)
      (.ok s.approvalState) s.approvalRequestSha256 s.approvalReceiptSha256 (.ok s.routeKind)
      (.str s.routeManifestSha256) (.str s.terminalHandlerManifestSha256) fence
  rebuilt.mapError (rewriting isRecordError (contractError "execution subject object is invalid"))

end DurableToolExecutionSubject

/-! ### Authorizations -/

inductive DurableToolExecutionDisposition where
  | execute
  | finalize
  | reuse
deriving DecidableEq

/-- An authorization; `authority` is the boundary that issued it. -/
structure DurableToolAuthorization where
  disposition : DurableToolExecutionDisposition
  toolName : String
  callId : String
  iteration : Int
  executionSubject : DurableToolExecutionSubject
  startedCursor : EventCursor
  currentExecutionFence : ExecutionFence
  resultArtifact : Option ArtifactRef
  completionArtifact : Option ArtifactRef
  resultCursor : Option EventCursor
  visibleResult : Value
  authority : Nat

namespace DurableToolAuthorization

def checkFence (recorded current : ExecutionFence) : Except PyError Unit :=
  if current.executionId ≠ recorded.executionId then
    .error (corruptError "current execution fence crossed the recorded execution")
  else if current.fencingToken < recorded.fencingToken
      || (current.fencingToken = recorded.fencingToken && current.ownerId ≠ recorded.ownerId) then
    .error (corruptError "current execution fence is stale or contradictory")
  else .ok ()

def checkDisposition (disposition : DurableToolExecutionDisposition)
    (recorded current : ExecutionFence) (resultArtifact completionArtifact : Option ArtifactRef)
    (resultCursor : Option EventCursor) (visibleResult : Value) : Except PyError Unit :=
  match disposition with
  | .execute =>
    if current ≠ recorded then
      .error (corruptError "execute authorization requires its recorded execution fence")
    else if resultArtifact.isSome || completionArtifact.isSome || resultCursor.isSome
        || !visibleResult.isNone then
      .error (corruptError "execute authorization cannot contain a terminal result")
    else .ok ()
  | _ =>
    if resultArtifact.isNone || resultCursor.isNone then
      .error (corruptError "reuse authorization requires a durable result artifact and cursor")
    else .ok ()

/-- `__post_init__` on fields of the right types; a current fence that is not given is the
recorded one. -/
def make (disposition : DurableToolExecutionDisposition) (toolName callId : String)
    (iteration : Int) (subject : DurableToolExecutionSubject) (startedCursor : EventCursor)
    (currentFence : Option ExecutionFence) (resultArtifact completionArtifact : Option ArtifactRef)
    (resultCursor : Option EventCursor) (visibleResult : Value) (authority : Nat) :
    Except PyError DurableToolAuthorization := do
  let toolName ← requiredIdentifier host "tool_name" (.str toolName)
  let callId ← requiredIdentifier host "call_id" (.str callId)
  let iteration ← checkIteration (.int iteration)
  let current := currentFence.getD subject.executionFence
  checkFence subject.executionFence current
  let visibleResult ← host.freeze "visible_result" visibleResult
  checkDisposition disposition subject.executionFence current resultArtifact completionArtifact
    resultCursor visibleResult
  .ok ⟨disposition, toolName, callId, iteration, subject, startedCursor, current,
    resultArtifact, completionArtifact, resultCursor, visibleResult, authority⟩

/-- `==` on authorizations, which leaves out the authority. -/
def same (a b : DurableToolAuthorization) : Bool :=
  a.disposition = b.disposition && a.toolName = b.toolName && a.callId = b.callId
    && a.iteration = b.iteration && a.executionSubject = b.executionSubject
    && a.startedCursor = b.startedCursor && a.currentExecutionFence = b.currentExecutionFence
    && a.resultArtifact = b.resultArtifact && a.completionArtifact = b.completionArtifact
    && a.resultCursor = b.resultCursor && a.visibleResult.eqPy b.visibleResult

theorem disposition_of_make {disposition : DurableToolExecutionDisposition}
    {toolName callId : String} {iteration : Int} {subject : DurableToolExecutionSubject}
    {startedCursor : EventCursor} {currentFence : Option ExecutionFence}
    {resultArtifact completionArtifact : Option ArtifactRef} {resultCursor : Option EventCursor}
    {visibleResult : Value} {authority : Nat} {built : DurableToolAuthorization}
    (h : make host disposition toolName callId iteration subject startedCursor currentFence
      resultArtifact completionArtifact resultCursor visibleResult authority = .ok built) :
    built.disposition = disposition := by
  iterate 6 obtain ⟨_, _, h⟩ := Effect.bind_ok h
  cases h
  rfl

end DurableToolAuthorization

/-! ### Completions and results -/

structure DurableToolCompletionEnvelope where
  attempt : AttemptRef
  toolName : String
  callId : String
  iteration : Int
  executionSubject : DurableToolExecutionSubject
  executionSubjectSha256 : String
  resultArtifact : ArtifactRef
  visibleResult : Value
  shouldObserve : Bool
  transition : Option StateTransition

namespace DurableToolCompletionEnvelope

def schema : String := "unchain.durable_tool_completion.v2"

/-- `bool` or a `TypeError`. -/
def checkObserve : Value → Except PyError Bool
  | .bool b => .ok b
  | _ => .error (.typeError "should_observe must be a boolean")

def make (attempt : AttemptRef) (toolName callId iteration : Value)
    (subject : DurableToolExecutionSubject) (subjectSha256 : Value) (resultArtifact : ArtifactRef)
    (visibleResult shouldObserve : Value) (transition : Option StateTransition) :
    Except PyError DurableToolCompletionEnvelope := do
  let toolName ← requiredIdentifier host "tool_name" toolName
  let callId ← requiredIdentifier host "call_id" callId
  let iteration ← checkIteration iteration
  let subject ← subject.coerce host
  let subjectSha256 ← sha256Text "execution_subject_sha256" subjectSha256
  let expected ← subject.sha256 host
  if subjectSha256 ≠ expected then
    .error (contractError "completion execution subject digest changed")
  else
    let visibleResult ← host.freeze "completion.visible_result" visibleResult
    let shouldObserve ← checkObserve shouldObserve
    .ok ⟨attempt, toolName, callId, iteration, subject, subjectSha256, resultArtifact,
      visibleResult, shouldObserve, transition⟩

def toDict (e : DurableToolCompletionEnvelope) : Value :=
  .dict [("schema", .str schema), ("attempt", e.attempt.toDict), ("tool_name", .str e.toolName),
    ("call_id", .str e.callId), ("iteration", .int e.iteration),
    ("execution_subject", e.executionSubject.toDict),
    ("execution_subject_sha256", .str e.executionSubjectSha256),
    ("result_artifact", e.resultArtifact.toDict), ("visible_result", e.visibleResult),
    ("should_observe", .bool e.shouldObserve),
    ("transition", (e.transition.map StateTransition.toDict).getD .none)]

/-- The fields of a stored completion. -/
def fields : List String :=
  ["schema", "attempt", "tool_name", "call_id", "iteration", "execution_subject",
    "execution_subject_sha256", "result_artifact", "visible_result", "should_observe",
    "transition"]

/-- A transition that may be absent. -/
def parseTransition (v : Value) : Except PyError (Option StateTransition) :=
  if v.isNone then .ok none else (StateTransition.fromDict host v).map some

def fromDict (v : Value) : Except PyError DurableToolCompletionEnvelope :=
  if !v.isDict then .error (contractError "tool completion must be an object")
  else if !hasExactly v fields || !(v.get "schema").eqPy (.str schema) then
    .error (contractError "tool completion schema is invalid")
  else do
    let transition ← parseTransition host (v.get "transition")
    let attempt ← AttemptRef.fromDict host (v.get "attempt")
    let subject ← DurableToolExecutionSubject.fromDict host (v.get "execution_subject")
    let resultArtifact ← ArtifactRef.fromDict host (v.get "result_artifact")
    make host attempt (v.get "tool_name") (v.get "call_id") (v.get "iteration") subject
      (v.get "execution_subject_sha256") resultArtifact (v.get "visible_result")
      (v.get "should_observe") transition

end DurableToolCompletionEnvelope

structure DurableToolResultReceipt where
  attempt : AttemptRef
  toolName : String
  callId : String
  iteration : Int
  executionSubject : DurableToolExecutionSubject
  executionSubjectSha256 : String
  visibleResult : Value
  artifact : ArtifactRef
  cursor : EventCursor
  completionArtifact : Option ArtifactRef
  duplicate : Bool
  authority : Nat
  modelProjection : Value

/-- A model projection is absent or an object with a `result` and a `metadata` object. -/
def checkModelProjection (projection : Value) : Except PyError Value :=
  if projection.isNone then .ok .none
  else if !hasExactly projection ["result", "metadata"] then
    .error (corruptError "tool result model projection schema is invalid")
  else if !(projection.get "result").isDict || !(projection.get "metadata").isDict then
    .error (corruptError "tool result model projection payload is invalid")
  else host.freeze "model_projection" projection

/-- `DurableToolResultReceipt.__post_init__` for the boundary's own receipts, whose subject
digest is computed from the subject. -/
def DurableToolResultReceipt.make (attempt : AttemptRef) (toolName callId : String)
    (iteration : Int) (subject : DurableToolExecutionSubject) (visibleResult : Value)
    (artifact : ArtifactRef) (cursor : EventCursor) (modelProjection : Value)
    (completionArtifact : Option ArtifactRef) (duplicate : Bool) (authority : Nat) :
    Except PyError DurableToolResultReceipt := do
  let toolName ← requiredIdentifier host "tool_name" (.str toolName)
  let callId ← requiredIdentifier host "call_id" (.str callId)
  let iteration ← checkIteration (.int iteration)
  let digest ← subject.sha256 host
  let digest ← sha256Text "execution_subject_sha256" (.str digest)
  let visibleResult ← host.freeze "visible_result" visibleResult
  let modelProjection ← checkModelProjection host modelProjection
  .ok ⟨attempt, toolName, callId, iteration, subject, digest, visibleResult, artifact, cursor,
    completionArtifact, duplicate, authority, modelProjection⟩

end Unchain.Context
