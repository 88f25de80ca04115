import Unchain.Memory.Runtime

/-!
Saving and clearing an execution checkpoint (`memory/runtime.py`) and committing a conversation
(`memory/manager.py`).
-/

namespace Unchain.Memory

open Lib Lib.Process Lib.Effect Interaction Python

section Persistence

variable (host : RuntimeHost)

/-! ### `save_execution_checkpoint_snapshot` -/

structure SaveCall where
  sessionId : String
  checkpoint : Value
  interactionRequest : Option (Given InteractionRequest)
  expectedRevision : Option Int
  executionFence : Option ExecutionFence

variable (c : SaveCall) (validated : Value) (snapshot : SessionSnapshot)

def SaveCall.check : Except PyError Unit := do
  raiseIf (!(validated.get "session_id").eqPy (.str c.sessionId))
    (checkpointCompatibilityError
      "execution checkpoint session_id does not match the target session")
  raiseIf (hasInteractionRef validated && c.interactionRequest.isNone)
    (checkpointCompatibilityError
      "checkpoint interaction_ref requires its full interaction_request")
  raiseIf (!hasInteractionRef validated && c.interactionRequest.isSome)
    (checkpointCompatibilityError "interaction_request requires a checkpoint interaction_ref")

variable (current : Option Value)

/-- `retry_candidate`: the checkpoint is there already, at the expected revision or one after. -/
def SaveCall.retryCandidate : Bool :=
  match current, c.expectedRevision with
  | some current, some expected =>
    let sameCheckpoint := (current.get "checkpoint_id").eqPy (validated.get "checkpoint_id")
    let sameRevisionNoop := decide (snapshot.revision = some expected)
    let verifiedRetry := decide (snapshot.revision = some (expected + 1))
      && (current.get "base_session_revision").eqPy (.int expected)
    sameCheckpoint && (sameRevisionNoop || verifiedRetry)
  | _, _ => false

def SaveCall.moveJournal (state : Dict) (current : Option Value) : Except PyError Dict :=
  match c.interactionRequest with
  | some request => registerCheckpointInteractionRequest host.interaction state validated request
  | none =>
    match current.filter hasInteractionRef with
    | some current => do
      let (applied, _) ← applyCheckpointInteractionReceipt host.interaction state current
        (checkpointIdOf validated)
      return applied
    | none => .ok state

/-- Cancellation-aware stores have all of these. -/
def cancellationMethods : List String :=
  ["load_execution_cancellation", "save_if_revision_and_execution_not_cancelled",
    "save_if_revision_and_execution_cancelled"]

def keptDomain (sessionId : String) (retry : Bool) (snapshot : SessionSnapshot)
    (current : Option Value) : Except PyError (Option ExecutionCheckpointDomain) :=
  match retry, current with
  | true, some current => ExecutionCheckpointDomain.fromState snapshot.state current sessionId
  | _, _ => .ok none

def SaveCall.putDomain (retry : Bool) (state : Dict) : Except PyError Dict :=
  match c.executionFence with
  | none => .ok (Assoc.erase executionCheckpointDomainKey state)
  | some fence => do
    let cancellationAware := cancellationMethods.all host.supports
    raiseIf (!decide (c.sessionId = fence.executionId) && !cancellationAware)
      (.typeError ("descendant execution checkpoint requires atomic cancellation-aware session "
        ++ "storage"))
    if cancellationAware then do
      let nextDomain := ExecutionCheckpointDomain.fromFence validated fence
      let existing ← keptDomain c.sessionId retry snapshot current
      let owned := existing.filter fun d => d.executionId = nextDomain.executionId
        ∧ d.ownerId = nextDomain.ownerId
      return match owned with
        | some domain => Assoc.set executionCheckpointDomainKey domain.toDict state
        | none =>
          if retry && !Assoc.has executionCheckpointDomainKey snapshot.state then
            Assoc.erase executionCheckpointDomainKey state
          else Assoc.set executionCheckpointDomainKey nextDomain.toDict state
    else return Assoc.erase executionCheckpointDomainKey state

/-- The document a save asks for. -/
def SaveCall.nextState (retry : Bool) : Except PyError Dict := do
  let journaled ← c.moveJournal host validated snapshot.state current
  c.putDomain host validated snapshot current retry
    (Assoc.set executionCheckpointKey validated journaled)

def wrapSave (said : String) (e : PyError) : PyError :=
  if isRevisionConflict e || isExecutionLeaseError e then e
  else checkpointPersistenceError (said ++ ": " ++ errorText e)

/-- What a check of the written document raises: a conflict when it was written over. -/
def verificationError (sessionId message : String) (persisted verified : SessionSnapshot) : PyError :=
  match persisted.revision, verified.revision with
  | some expected, some actual =>
    if actual ≠ expected then sessionRevisionConflict host sessionId expected actual
    else checkpointPersistenceError message
  | _, _ => checkpointPersistenceError message

def SaveCall.verifyJournal (verified : SessionSnapshot) : Except PyError Unit :=
  match c.interactionRequest with
  | none => .ok ()
  | some given => do
    let (request, journal) ← Except.mapError
      (fun e => checkpointPersistenceError
        ("persisted interaction journal could not be verified: " ++ errorText e)) do
      let request ← InteractionRequest.fromDict host.interaction given
      let journal ← readJournal host.interaction (verified.get interactionJournalKey)
      return (request, journal)
    let written := (journal.entry request.interactionId).any fun e =>
      (Value.dict e.request.toDict).eqPy (.dict request.toDict)
        && (validated.get "checkpoint_id").eqPy (.str e.checkpointId) && e.application.isNone
    raiseIf (!decide (journal.activeId = some request.interactionId) || !written)
      (checkpointPersistenceError "interaction journal write verification failed")

def reloadCheckpoint (sessionId : String) : StoreProg (SessionSnapshot × Option Value) := do
  let verified ← loadSnapshot host sessionId
  let persisted ← Prog.lift (currentCheckpoint host.interaction verified.state)
  return (verified, persisted)

def SaveCall.write (state : Dict) : StoreProg (Value × SessionSnapshot) := do
  let persistedSnapshot ← Prog.mapError (wrapSave "failed to persist execution checkpoint")
    (saveSessionSnapshot host c.sessionId state (snapshot.expected c.expectedRevision)
      c.executionFence)
  let (verified, persisted) ← Prog.mapError
    (fun e => checkpointPersistenceError
      ("persisted execution checkpoint could not be verified: " ++ errorText e))
    (reloadCheckpoint host c.sessionId)
  match persisted.filter fun p => (p.get "checkpoint_id").eqPy (validated.get "checkpoint_id") with
  | none => .raise (verificationError host c.sessionId
      "execution checkpoint write verification failed" persistedSnapshot verified)
  | some persisted => do
    Prog.lift (c.verifyJournal host validated verified)
    return (persisted, persistedSnapshot)

/-- A retry whose document would change is refused; otherwise what is stored is returned. -/
def SaveCall.acknowledge (current : Value) (snapshot : SessionSnapshot) (state : Dict) :
    StoreProg (Value × SessionSnapshot) := do
  Prog.raiseIf (!(Value.dict state).eqPy (.dict snapshot.state))
    (checkpointIntegrityError
      "checkpoint retry found a non-atomic interaction journal state")
  verifyExecutionFence host c.executionFence
  return (current, snapshot)

def SaveCall.over : StoreProg (Value × SessionSnapshot) := do
  let current ← Prog.lift (currentCheckpoint host.interaction snapshot.state)
  let retry := c.retryCandidate validated snapshot current
  Prog.lift (if retry then .ok () else
    ensureExpectedRevision host snapshot c.sessionId c.expectedRevision)
  let state ← Prog.lift (c.nextState host validated snapshot current retry)
  match current.filter fun _ => retry with
  | some current => c.acknowledge host current snapshot state
  | none => c.write host validated snapshot state

/-- `save_execution_checkpoint_snapshot`. -/
def saveExecutionCheckpointSnapshot : StoreProg (Value × SessionSnapshot) := do
  Prog.raiseIf c.sessionId.isEmpty
    (checkpointPersistenceError
      "execution checkpoint persistence requires a non-empty session_id")
  let validated ← Prog.lift (validateExecutionCheckpoint host.interaction c.checkpoint)
  Prog.lift (c.check validated)
  let snapshot ← loadSnapshot host c.sessionId
  c.over host validated snapshot

/-! ### `clear_execution_checkpoint_snapshot` -/

structure ClearCall where
  sessionId : String
  expectedCheckpointId : Option String
  expectedRevision : Option Int
  executionFence : Option ExecutionFence

def ClearCall.nextState (c : ClearCall) (snapshot : SessionSnapshot) :
    Except PyError (Dict × Bool × String) := do
  let current ← validateExecutionCheckpoint host.interaction (snapshot.get executionCheckpointKey)
  raiseIf (c.expectedCheckpointId.any fun id =>
      !id.isEmpty && !(current.get "checkpoint_id").eqPy (.str id))
    (checkpointCompatibilityError "refusing to clear a different execution checkpoint")
  let (applied, interactionApplied) ← applyCheckpointInteractionReceipt host.interaction
    snapshot.state current (checkpointIdOf current)
  return (dropCheckpoint applied, interactionApplied, textOf (refInteractionId current))

def verifyCleared (interactionId : String) (verified : SessionSnapshot) : Except PyError Unit := do
  let journal ← Except.mapError
    (fun e => checkpointPersistenceError
      ("cleared interaction journal could not be verified: " ++ errorText e))
    (readJournal host.interaction (verified.get interactionJournalKey))
  raiseIf (journal.activeId.isSome
      || !(journal.entry interactionId).any fun e => e.application.isSome)
    (checkpointPersistenceError "interaction receipt application verification failed")

def ClearCall.write (c : ClearCall) (snapshot : SessionSnapshot) (state : Dict)
    (interactionApplied : Bool) (interactionId : String) : StoreProg (Bool × SessionSnapshot) := do
  let persistedSnapshot ← Prog.mapError (wrapSave "failed to clear execution checkpoint")
    (saveSessionSnapshot host c.sessionId state (snapshot.expected c.expectedRevision)
      c.executionFence)
  let verified ← loadSnapshot host c.sessionId
  Prog.raiseIf (Assoc.has executionCheckpointKey verified.state)
    (verificationError host c.sessionId "execution checkpoint clear verification failed"
      persistedSnapshot verified)
  Prog.lift (if interactionApplied then verifyCleared host interactionId verified else .ok ())
  return (true, persistedSnapshot)

def ClearCall.over (c : ClearCall) (snapshot : SessionSnapshot) :
    StoreProg (Bool × SessionSnapshot) :=
  if Assoc.has executionCheckpointKey snapshot.state then do
    let (state, interactionApplied, interactionId) ← Prog.lift (c.nextState host snapshot)
    c.write host snapshot state interactionApplied interactionId
  else do
    verifyExecutionFence host c.executionFence
    return (false, snapshot)

/-- `clear_execution_checkpoint_snapshot`. -/
def clearExecutionCheckpointSnapshot (c : ClearCall) : StoreProg (Bool × SessionSnapshot) :=
  if c.sessionId.isEmpty then .ret (false, .empty)
  else do
    let snapshot ← loadSnapshot host c.sessionId
    Prog.lift (ensureExpectedRevision host snapshot c.sessionId c.expectedRevision)
    c.over host snapshot

/-! ### `MemoryManager.commit_messages` -/

/-- The fields that indexing the conversation leaves behind. -/
inductive IndexField where
  | vectorIndexedUntil | longTermIndexedUntil | longTermPendingTurnCount

def IndexField.key : IndexField → String
  | .vectorIndexedUntil => "vector_indexed_until"
  | .longTermIndexedUntil => "long_term_indexed_until"
  | .longTermPendingTurnCount => "long_term_pending_turn_count"

/-- The arguments of a commit, with what the indexes it feeds write into the state. -/
structure CommitCall where
  sessionId : String
  fullConversation : List Value
  expectedRevision : Option Int
  summaryText : Option String
  clearExecutionCheckpointId : Option String
  executionFence : Option ExecutionFence
  indexed : List (IndexField × Value)

/-- `str(current_checkpoint.get("checkpoint_id") or "")`, or nothing without a checkpoint. -/
def currentCheckpointId : String := (current.map checkpointIdOf).getD ""

/-- A commit without the id of the checkpoint it clears finds none. -/
def refuseCheckpoint (state : Dict) : Except PyError Dict :=
  if Assoc.has executionCheckpointKey state then do
    let checkpoint ← validateExecutionCheckpoint host.interaction
      ((Value.dict state).get executionCheckpointKey)
    .error (checkpointResumeRequiredError ("session contains a durable execution checkpoint ("
      ++ (checkpoint.get "status").toStr host.interaction.display
      ++ "); semantic commit must resume or atomically clear that checkpoint"))
  else .ok state

def clearForCommit (state : Dict) (checkpointId : String) : Except PyError Dict := do
  let current ← currentCheckpoint host.interaction state
  raiseIf (!decide (currentCheckpointId current = checkpointId))
    (checkpointCompatibilityError "refusing to commit over a different execution checkpoint")
  match current with
  | some current => do
    let (applied, _) ← applyCheckpointInteractionReceipt host.interaction state current checkpointId
    return dropCheckpoint applied
  | none => return dropCheckpoint state

def CommitCall.clear (c : CommitCall) (state : Dict) : Except PyError Dict :=
  match c.clearExecutionCheckpointId.filter fun id => !id.isEmpty with
  | some checkpointId => clearForCommit host state checkpointId
  | none => refuseCheckpoint host state

/-- `state["summary"] = normalized_summary`. -/
def putSummary (state : Dict) : Option String → Dict
  | none => state
  | some summary => Assoc.set "summary" (.str (strip summary)) state

def CommitCall.fill (c : CommitCall) (state : Dict) : Except PyError Dict := do
  let conversation := c.fullConversation.filter isDict
  let committed ← host.commitStrategy (Assoc.set "messages" (.list conversation) state) conversation
  return c.indexed.foldl (fun state write => Assoc.set write.1.key write.2 state)
    (putSummary committed c.summaryText)

/-- The document a commit asks for. -/
def CommitCall.nextState (c : CommitCall) (state : Dict) : Except PyError Dict := do
  let cleared ← c.clear host state
  c.fill host cleared

def CommitCall.write (c : CommitCall) (snapshot : SessionSnapshot) (state : Dict) :
    StoreProg SessionSnapshot :=
  if c.sessionId.isEmpty then .ret { state, revision := none }
  else saveSessionSnapshot host c.sessionId state (snapshot.expected c.expectedRevision)
    c.executionFence

/-- `commit_messages`: the snapshot of its result. -/
def commitMessages (c : CommitCall) : StoreProg SessionSnapshot := do
  Prog.lift (checkFenceTarget c.sessionId c.executionFence)
  verifyExecutionFence host c.executionFence
  let snapshot ← loadSnapshot host c.sessionId
  Prog.lift (ensureExpectedRevision host snapshot c.sessionId c.expectedRevision)
  let state ← Prog.lift (c.nextState host snapshot.state)
  c.write host snapshot state

end Persistence

end Unchain.Memory
