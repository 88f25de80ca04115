import Unchain.Memory.Persistence
import Unchain.Interaction.HumanInput

/-!
The facade that records one answer of a durable interaction or cancels it
(`interaction/runtime.py`).

An answer is normalized for the kind of its request, recorded in the journal of the session
document and saved against the revision the document was loaded with.
-/

namespace Unchain.Interaction

open Lib Lib.Process Lib.Effect Memory Python

/-! ### Response contracts -/

def typed (name : String) : Value := .dict [("type", .str name)]

def objectContract (properties : Dict) : Value :=
  .dict [("type", .str "object"), ("properties", .dict properties),
    ("required", .list ((Assoc.keys properties).map .str)), ("additionalProperties", .bool false)]

/-- `HUMAN_INPUT_RESPONSE_CONTRACT`. -/
def humanInputResponseContract : Value :=
  objectContract
    [("request_id", typed "string"),
      ("selected_values", .dict [("type", .str "array"), ("items", typed "string")]),
      ("other_text", .dict [("type", .list [.str "string", .str "null"])])]

/-- `TOOL_APPROVAL_RESPONSE_CONTRACT`. -/
def toolApprovalResponseContract : Value :=
  objectContract
    [("approved", typed "boolean"),
      ("modified_arguments", .dict [("type", .list [.str "object", .str "null"])]),
      ("reason", typed "string")]

/-- `MAX_BUDGET_RESPONSE_CONTRACT`. -/
def maxBudgetResponseContract : Value :=
  objectContract
    [("approved", typed "boolean"),
      ("extra_iterations", .dict [("type", .str "integer"), ("minimum", .int 0)])]

/-! ### Normalized answers -/

/-- `ToolConfirmationResponse`, as its constructor leaves it. -/
structure ToolConfirmationResponse where
  approved : Value
  modifiedArguments : Value
  reason : Value

/-- `ToolConfirmationResponse.from_raw` on what the caller lets through. -/
def ToolConfirmationResponse.fromRaw : Value → Except PyError ToolConfirmationResponse
  | .bool b => .ok { approved := .bool b, modifiedArguments := .none, reason := .str "" }
  | .dict es => .ok
      { approved := (Value.dict es).getD "approved" (.bool true)
        modifiedArguments := (Value.dict es).get "modified_arguments"
        reason := (Value.dict es).getD "reason" (.str "") }
  | .obj (.other "ToolConfirmationResponse") attrs => .ok
      { approved := (Value.dict attrs).get "approved"
        modifiedArguments := (Value.dict attrs).get "modified_arguments"
        reason := (Value.dict attrs).get "reason" }
  | _ => .error (.valueError "tool approval response must be a bool or object")

/-- `raw.to_dict()` of a response that is an instance. -/
def humanResponseDict : Value → Value
  | .obj (.other "HumanInputResponse") attrs =>
    .dict (["request_id", "selected_values", "other_text"].map fun key =>
      (key, (Value.dict attrs).get key))
  | v => v

def isStr : Value → Bool
  | .str _ => true
  | _ => false

/-- `_normalize_tool_approval_response`. -/
def normalizeToolApprovalResponse (response : Value) : Except PyError Value := do
  let parsed ← ToolConfirmationResponse.fromRaw response
  raiseIf (!isBool parsed.approved)
    (.valueError "tool approval response approved must be a boolean")
  raiseIf (!parsed.modifiedArguments.isNone && !isDict parsed.modifiedArguments)
    (.valueError "tool approval response modified_arguments must be an object or null")
  raiseIf (!isStr parsed.reason)
    (.valueError "tool approval response reason must be a string")
  return .dict [("approved", parsed.approved), ("modified_arguments", parsed.modifiedArguments),
    ("reason", parsed.reason)]

/-- `approved` and `extra_iterations` as they are given. -/
def readMaxBudget : Value → Except PyError (Value × Value)
  | .bool b => .ok (.bool b, .none)
  | .dict es => .ok ((Value.dict es).getD "approved" (.bool false),
      (Value.dict es).get "extra_iterations")
  | _ => .error (.valueError "max budget response must be a bool or object")

/-- The iterations of an approval; without a number the request suggests one. -/
def extraIterations (payload rawExtra : Value) : Except PyError Int :=
  let defaultExtra := (Value.dict payload.entries).getD "suggested_extra_iterations" (.int 1)
  let refused : Except PyError Int := .error
    (.valueError "approved max budget response extra_iterations must be a positive integer")
  match if rawExtra.isNone then defaultExtra else rawExtra with
  | .int n => if n < 1 then refused else .ok n
  | _ => refused

/-- `_normalize_max_budget_response`. -/
def normalizeMaxBudgetResponse (payload response : Value) : Except PyError Value := do
  let (approved, rawExtra) ← readMaxBudget response
  match approved with
  | .bool false => return .dict [("approved", .bool false), ("extra_iterations", .int 0)]
  | .bool true => do
    let extra ← extraIterations payload rawExtra
    return .dict [("approved", .bool true), ("extra_iterations", .int extra)]
  | _ => .error (.valueError "max budget response approved must be a boolean")

/-- What `load` gives of an interaction. -/
structure DurableInteractionSnapshot where
  request : InteractionRequest
  checkpointId : String
  receipt : Option InteractionReceipt
  application : Option Application
  sessionSnapshot : SessionSnapshot

section Runtime

variable (host : RuntimeHost)

/-- `_normalize_human_input_response`. -/
def normalizeHumanInputResponse (payload response : Value) : Except PyError Value := do
  let request ← HumanInputRequest.fromDict host.interaction payload
  let answer ← HumanInputResponse.fromRaw host.interaction request (humanResponseDict response)
  return answer.toDict

/-- `response_contract_for_kind`. -/
def responseContractForKind (kind : String) : Except PyError Value :=
  if kind = "human_input" then .ok humanInputResponseContract
  else if kind = "tool_approval" then .ok toolApprovalResponseContract
  else if kind = "max_budget" then .ok maxBudgetResponseContract
  else .error (integrityError ("unsupported interaction kind: " ++ host.reprStr kind))

def normalizeForKind (request : InteractionRequest) (response : Value) : Except PyError Value :=
  if request.kind = "human_input" then normalizeHumanInputResponse host request.payload response
  else if request.kind = "tool_approval" then normalizeToolApprovalResponse response
  else if request.kind = "max_budget" then normalizeMaxBudgetResponse request.payload response
  else .error (integrityError ("unsupported interaction kind: " ++ host.reprStr request.kind))

/-- `normalize_interaction_response`. -/
def normalizeInteractionResponse (request : InteractionRequest) (response : Value) :
    Except PyError Value := do
  let bound ← InteractionRequest.fromDict host.interaction (.built request)
  let contract ← responseContractForKind host bound.kind
  let current ← digest host.interaction contract
  raiseIf (bound.schemaDigest ≠ current)
    (integrityError "pending interaction response schema no longer matches this runtime")
  normalizeForKind host bound response

/-! ### `DurableInteractionRuntime` -/

/-- `ExecutionCancelledError` for a tombstone. -/
def executionCancelledError (cancellation : ExecutionCancellation) : PyError :=
  let reason := if cancellation.reason.isEmpty then "execution was cancelled"
    else cancellation.reason
  leaseError host.reprStr "ExecutionCancelledError" reason cancellation.executionId
    cancellation.ownerId cancellation.fencingToken

def resolveId (sessionId : String) (interactionId : Option String) (activeId : Option String) :
    Except PyError String :=
  match (interactionId.filter fun id => !id.isEmpty).or activeId with
  | some id => .ok id
  | none => .error (notPendingError
      ("session has no pending interaction: " ++ host.reprStr sessionId))

def requireExisting (journal : Journal) (id : String) : Except PyError JournalEntry :=
  match journal.entry id with
  | some entry => .ok entry
  | none => .error (notPendingError ("interaction does not exist: " ++ host.reprStr id))

def snapshotOf (sessionSnapshot : SessionSnapshot) (sessionId : String)
    (interactionId : Option String) (requireActive : Bool) :
    Except PyError DurableInteractionSnapshot := do
  let journal ← readJournal host.interaction (sessionSnapshot.get interactionJournalKey)
  let resolvedId ← resolveId host sessionId interactionId journal.activeId
  raiseIf (requireActive && !decide (journal.activeId = some resolvedId))
    (notPendingError ("interaction is no longer pending: " ++ host.reprStr resolvedId))
  let entry ← requireExisting host journal resolvedId
  let request ← InteractionRequest.fromDict host.interaction (.raw (.dict entry.request.toDict))
  let receipt ← readReceipt host.interaction request (receiptDict entry.receipt)
  return { request, checkpointId := entry.checkpointId, receipt, application := entry.application,
           sessionSnapshot }

/-- The session of `_load`: cancelled executions are reconciled first, when that is asked for. -/
def loadSession (sessionId : String) (reconcileCancelled : Bool) : StoreProg SessionSnapshot :=
  if reconcileCancelled then do
    let (snapshot, cancellation) ← reconcileCancelledExecutionCheckpoint host sessionId
      "runtime:cancelled_execution_tree"
    match cancellation with
    | some cancellation => .raise (executionCancelledError host cancellation)
    | none => .ret snapshot
  else loadSnapshot host sessionId

/-- `_load`. -/
def loadInteraction (sessionId : String) (interactionId : Option String)
    (requireActive reconcileCancelled : Bool) : StoreProg DurableInteractionSnapshot := do
  Prog.raiseIf (strip sessionId).isEmpty
    (notPendingError "durable interaction requires a non-empty session_id")
  let snapshot ← loadSession host sessionId reconcileCancelled
  Prog.lift (snapshotOf host snapshot sessionId interactionId requireActive)

/-- A cancellation that shows up is reconciled before it is raised. -/
def reconcileAndRaise (sessionId : String) (e : PyError) : StoreProg DurableInteractionSnapshot := do
  let _ ← reconcileCancelledExecutionCheckpoint host sessionId "runtime:cancelled_execution_tree"
  .raise e

/-- The lease is verified before an answer that is there already is returned. -/
def verifyAndReturn (sessionId : String) (fence : Option ExecutionFence)
    (snapshot : DurableInteractionSnapshot) : StoreProg DurableInteractionSnapshot := do
  match ← (verifyExecutionFence host fence).attempt with
  | .ok () => .ret snapshot
  | .error e =>
    if isExecutionCancelled e then reconcileAndRaise host sessionId e else .raise e

/-- `current.receipt is not None and current.receipt.response == normalized_response`. -/
def alreadyAnswered (snapshot : DurableInteractionSnapshot) (normalized : Value) : Bool :=
  snapshot.receipt.any fun r => r.response.eqPy normalized

/-- The arguments of `record_receipt`. -/
structure RecordCall where
  sessionId : String
  interactionId : String
  response : Value
  submittedBy : String
  expectedRevision : Option Int
  executionFence : Option ExecutionFence

/-- The snapshot of an answer that the journal already holds. -/
def RecordCall.replayed (c : RecordCall) (current : DurableInteractionSnapshot) (journal : Journal) :
    Except PyError DurableInteractionSnapshot :=
  match journal.entry c.interactionId with
  | none => .error (.keyError (host.reprStr c.interactionId))
  | some entry => do
    let receipt ← InteractionReceipt.fromDict host.interaction (.raw (receiptDict entry.receipt))
      (.built current.request)
    return { current with receipt := some receipt, application := entry.application }

/-- The write came through: what is stored now must be this receipt. -/
def RecordCall.verify (c : RecordCall) (receipt : InteractionReceipt) (persisted : SessionSnapshot) :
    StoreProg DurableInteractionSnapshot := do
  let verified ← loadInteraction host c.sessionId (some c.interactionId) false true
  match verified.receipt.filter fun r => r.receiptId = receipt.receiptId with
  | some _ => .ret verified
  | none =>
    match persisted.revision, verified.sessionSnapshot.revision with
    | some expected, some actual =>
      if expected ≠ actual then
        .raise (sessionRevisionConflict host c.sessionId expected actual)
      else .raise (integrityError "interaction receipt write verification failed")
    | _, _ => .raise (integrityError "interaction receipt write verification failed")

/-- Another write came first: its answer counts when it is the same. -/
def RecordCall.yieldToWinner (c : RecordCall) (normalized : Value) (fence : Option ExecutionFence)
    (conflict : PyError) : StoreProg DurableInteractionSnapshot := do
  let winner ← loadInteraction host c.sessionId (some c.interactionId) false true
  if alreadyAnswered winner normalized then verifyAndReturn host c.sessionId fence winner
  else .raise conflict

def RecordCall.write (c : RecordCall) (current : DurableInteractionSnapshot)
    (fence : Option ExecutionFence) (normalized : Value) (receipt : InteractionReceipt)
    (updated : Value) : StoreProg DurableInteractionSnapshot := do
  Prog.lift (ensureExpectedRevision host current.sessionSnapshot c.sessionId c.expectedRevision)
  let state := Assoc.set interactionJournalKey updated current.sessionSnapshot.state
  let saved ← (saveInteractionSessionState host c.sessionId state current.checkpointId
    current.sessionSnapshot (current.sessionSnapshot.expected c.expectedRevision)
    c.executionFence).attempt
  match saved with
  | .ok persisted => c.verify host receipt persisted
  | .error e =>
    if isExecutionCancelled e then reconcileAndRaise host c.sessionId e
    else if isRevisionConflict e then c.yieldToWinner host normalized fence e
    else .raise e

/-- The part of `record_receipt` that builds a receipt of its own. -/
def RecordCall.record (c : RecordCall) (current : DurableInteractionSnapshot)
    (fence : Option ExecutionFence) (normalized : Value) : StoreProg DurableInteractionSnapshot := do
  let now ← .call .clockMs Prog.lift
  let receipt ← Prog.lift
    (buildInteractionReceipt host.interaction (.built current.request) normalized c.submittedBy now)
  let journal ← Prog.lift
    (readJournal host.interaction (current.sessionSnapshot.get interactionJournalKey))
  let updated ← Prog.lift
    (recordInteractionReceipt host.interaction journal.toDict (.built receipt))
  if updated.eqPy journal.toDict then do
    match ← (verifyExecutionFence host fence).attempt with
    | .ok () => Prog.lift (c.replayed host current journal)
    | .error e =>
      if isExecutionCancelled e then reconcileAndRaise host c.sessionId e else .raise e
  else c.write host current fence normalized receipt updated

/-- `record_receipt`. -/
def recordReceipt (c : RecordCall) : StoreProg DurableInteractionSnapshot := do
  let current ← loadInteraction host c.sessionId (some c.interactionId) false true
  let fence ← Prog.lift (resolveInteractionExecutionFence host c.sessionId current.checkpointId
    current.sessionSnapshot c.executionFence)
  let normalized ← Prog.lift (normalizeInteractionResponse host current.request c.response)
  if alreadyAnswered current normalized then verifyAndReturn host c.sessionId fence current
  else c.record host current fence normalized

/-! ### `cancel_pending` -/

/-- The arguments of `cancel_pending`. -/
structure CancelCall where
  sessionId : String
  sourceRunId : String
  expectedInteractionId : Option String
  reason : String
  submittedBy : String

/-- The checks of the arguments, with the ids stripped. -/
def CancelCall.check (c : CancelCall) : Except PyError CancelCall := do
  let sourceRunId := strip c.sourceRunId
  raiseIf sourceRunId.isEmpty (.valueError "source_run_id must be a non-empty string")
  let expectedInteractionId := c.expectedInteractionId.map strip
  raiseIf (expectedInteractionId.any String.isEmpty)
    (.valueError "expected_interaction_id must be a non-empty string")
  return { c with sourceRunId, expectedInteractionId }

variable (c : CancelCall) (current : DurableInteractionSnapshot)

def CancelCall.checkActive : Except PyError Unit := do
  raiseIf (current.request.sourceRunId ≠ c.sourceRunId)
    (notPendingError "active interaction belongs to a different source run")
  raiseIf (c.expectedInteractionId.any fun id => current.request.interactionId ≠ id)
    (notPendingError "active interaction is a different interaction")

def CancelCall.checkpoint : Except PyError Value := do
  let found ← currentCheckpoint host.interaction current.sessionSnapshot.state
  match found with
  | none => .error (integrityError "active interaction has no execution checkpoint")
  | some checkpoint => do
    raiseIf (!(checkpoint.get "source_run_id").eqPy (.str c.sourceRunId)
        || !(checkpoint.get "checkpoint_id").eqPy (.str current.checkpointId))
      (integrityError "active interaction checkpoint belongs to a different source run")
    return checkpoint

def CancelCall.recordCancelled (journal : Journal) (entry : JournalEntry) :
    StoreProg (Option Value) :=
  match entry.receipt with
  | some _ => .ret none
  | none => do
    let now ← .call .clockMs Prog.lift
    let receipt ← Prog.lift (buildInteractionReceipt host.interaction (.built current.request)
      (cancelledResponse c.reason) c.submittedBy now)
    let recorded ← Prog.lift
      (recordInteractionReceipt host.interaction journal.toDict (.built receipt))
    return some recorded

def requireActiveEntry (journal : Journal) (id : String) : Except PyError JournalEntry :=
  match journal.entry id with
  | some entry => .ok entry
  | none => .error (integrityError "active interaction is missing from its journal")

/-- The application a cancellation leaves. -/
def cancelledApplication (checkpointId : String) : String := "cancelled:" ++ checkpointId

/-- Another write came first: it must have cancelled the same checkpoint. -/
def CancelCall.yieldToWinner (conflict : PyError) : StoreProg DurableInteractionSnapshot := do
  let winner ← loadInteraction host c.sessionId (some current.request.interactionId) false false
  match winner.application with
  | none => .raise conflict
  | some application =>
    if application.appliedCheckpointId = cancelledApplication current.checkpointId then .ret winner
    else .raise (notPendingError "interaction was already applied without cancellation")

/-- What is stored after the write must be this cancellation. -/
def CancelCall.verify : StoreProg DurableInteractionSnapshot := do
  let cancelled ← loadInteraction host c.sessionId (some current.request.interactionId) false false
  match cancelled.application with
  | none => .raise (integrityError "cancelled interaction was not terminalized")
  | some application =>
    if application.appliedCheckpointId = cancelledApplication current.checkpointId then
      .ret cancelled
    else .raise (integrityError "cancelled interaction has a foreign application")

def CancelCall.write (state : Dict) : StoreProg DurableInteractionSnapshot := do
  let saved ← (saveInteractionSessionState host c.sessionId state current.checkpointId
    current.sessionSnapshot current.sessionSnapshot.revision none).attempt
  match saved with
  | .ok _ => c.verify host current
  | .error e => if isRevisionConflict e then c.yieldToWinner host current e else .raise e

/-- `cancel_pending` on checked arguments. -/
def CancelCall.run : StoreProg DurableInteractionSnapshot := do
  let current ← loadInteraction host c.sessionId none true false
  Prog.lift (c.checkActive current)
  let checkpoint ← Prog.lift (c.checkpoint host current)
  let journal ← Prog.lift
    (readJournal host.interaction (current.sessionSnapshot.get interactionJournalKey))
  let entry ← Prog.lift (requireActiveEntry journal current.request.interactionId)
  let recorded ← c.recordCancelled host current journal entry
  let (applied, _) ← Prog.lift (applyCheckpointInteractionReceipt host.interaction
    (putJournal current.sessionSnapshot.state recorded) checkpoint
    (cancelledApplication current.checkpointId))
  c.write host current (dropCheckpoint applied)

/-- `cancel_pending`. -/
def cancelPending (c : CancelCall) : StoreProg DurableInteractionSnapshot := do
  let c ← Prog.lift c.check
  c.run host

end Runtime

end Unchain.Interaction
