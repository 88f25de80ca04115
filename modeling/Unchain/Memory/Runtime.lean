import Unchain.Memory.CheckpointState

/-!
The session runtime (`memory/runtime.py`) and the commit of a conversation (`memory/manager.py`).

Every operation loads the document of a session, computes the next one and saves it against the
revision it loaded. What an operation computes is a function of its own; the programs around them
say in which order the store is asked.
-/

namespace Unchain.Memory

open Lib Lib.Process Lib.Effect Interaction Python

/-! ### `_ExecutionCheckpointDomain` -/

structure ExecutionCheckpointDomain where
  checkpointId : String
  executionId : String
  ownerId : String
  fencingToken : Int

namespace ExecutionCheckpointDomain

/-- `from_fence`. -/
def fromFence (checkpoint : Value) (fence : ExecutionFence) : ExecutionCheckpointDomain :=
  { checkpointId := checkpointIdOf checkpoint, executionId := fence.executionId,
    ownerId := fence.ownerId, fencingToken := fence.fencingToken }

/-- `to_dict`. -/
def toDict (d : ExecutionCheckpointDomain) : Value :=
  .dict [("schema_version", .int 1), ("checkpoint_id", .str d.checkpointId),
    ("execution_id", .str d.executionId), ("owner_id", .str d.ownerId),
    ("fencing_token", .int d.fencingToken)]

def domainFields : List String :=
  ["schema_version", "checkpoint_id", "execution_id", "owner_id", "fencing_token"]

/-- `isinstance(value, int) and value > 0`. -/
def isPositive : Value → Bool
  | .int n => 0 < n
  | _ => false

/-- `from_state` on an object that is there. -/
def read (raw checkpoint : Value) (sessionId : String) : Except PyError ExecutionCheckpointDomain := do
  raiseIf (!isDict raw || !hasExactly raw.entries domainFields)
    (checkpointIntegrityError "execution checkpoint domain has an invalid shape")
  raiseIf (!(raw.get "schema_version").eqPy (.int 1))
    (checkpointIntegrityError "unsupported execution checkpoint domain schema_version")
  raiseIf (!isText (raw.get "checkpoint_id")
      || !(raw.get "checkpoint_id").eqPy (checkpoint.get "checkpoint_id"))
    (checkpointIntegrityError
      "execution checkpoint domain is bound to a different checkpoint")
  raiseIf (!isText (raw.get "execution_id"))
    (checkpointIntegrityError "execution checkpoint domain requires execution_id")
  raiseIf (!isText (raw.get "owner_id"))
    (checkpointIntegrityError "execution checkpoint domain requires owner_id")
  raiseIf (!isPositive (raw.get "fencing_token"))
    (checkpointIntegrityError "execution checkpoint domain requires a positive fencing_token")
  let executionId := textOf (raw.get "execution_id")
  raiseIf (!decide (sessionId = executionId ∨ (executionId ++ ":").toList <+: sessionId.toList))
    (checkpointIntegrityError "execution checkpoint domain cannot own the target session")
  let fencingToken ← (raw.get "fencing_token").toInt
  return { checkpointId := textOf (raw.get "checkpoint_id"), executionId,
           ownerId := textOf (raw.get "owner_id"), fencingToken }

/-- `from_state`. -/
def fromState (state : Dict) (checkpoint : Value) (sessionId : String) :
    Except PyError (Option ExecutionCheckpointDomain) :=
  match (Value.dict state).get executionCheckpointDomainKey with
  | .none => .ok none
  | raw => (read raw checkpoint sessionId).map some

end ExecutionCheckpointDomain

/-- A document without its checkpoint. -/
def dropCheckpoint (state : Dict) : Dict :=
  Assoc.erase executionCheckpointDomainKey (Assoc.erase executionCheckpointKey state)

section Runtime

variable (host : RuntimeHost)

/-- `KernelMemoryRuntime.load_session_snapshot`. -/
def loadSnapshot (sessionId : String) : StoreProg SessionSnapshot :=
  if sessionId.isEmpty then .ret .empty else loadSessionSnapshot host sessionId

def SessionSnapshot.expected (snapshot : SessionSnapshot) (expectedRevision : Option Int) :
    Option Int :=
  expectedRevision.or snapshot.revision

variable (sessionId : String) (state : Dict)

/-- `save_session_state`. -/
def saveSessionState (expectedRevision : Option Int) (executionFence : Option ExecutionFence) :
    StoreProg SessionSnapshot :=
  if sessionId.isEmpty then .ret .empty
  else do
    let current ← loadSnapshot host sessionId
    Prog.lift (ensureExpectedRevision host current sessionId expectedRevision)
    saveSessionSnapshot host sessionId state (current.expected expectedRevision) executionFence

/-- `_checkpoint_domain`. -/
def checkpointDomain (sessionId : String) (snapshot : SessionSnapshot) :
    Except PyError (Option (Value × ExecutionCheckpointDomain)) := do
  match ← currentCheckpoint host.interaction snapshot.state with
  | none => return none
  | some checkpoint =>
    let domain ← ExecutionCheckpointDomain.fromState snapshot.state checkpoint sessionId
    return domain.map fun d => (checkpoint, d)

/-! ### `reconcile_cancelled_execution_checkpoint` -/

/-- The answer recorded for an interaction that is cancelled. -/
def cancelledResponse (reason : String) : Value :=
  .dict [("cancelled", .bool true),
    ("reason", .str (if reason.isEmpty then "execution_cancelled" else reason))]

def recordCancellation (journal : Journal) (entry : JournalEntry) (reason submittedBy : String)
    (submittedAtMs : Int) : Except PyError (Option Value) :=
  match entry.receipt with
  | some _ => .ok none
  | none => do
    let receipt ← buildInteractionReceipt host.interaction (.raw (.dict entry.request.toDict))
      (cancelledResponse reason) submittedBy submittedAtMs
    let recorded ← recordInteractionReceipt host.interaction journal.toDict (.built receipt)
    return some recorded

/-- `state[INTERACTION_JOURNAL_KEY] = journal`, when there is a new one. -/
def putJournal (state : Dict) : Option Value → Dict
  | none => state
  | some journal => Assoc.set interactionJournalKey journal state

def requireCancelledEntry (journal : Journal) (checkpoint : Value) : Except PyError JournalEntry :=
  match journal.entry (textOf (refInteractionId checkpoint)) with
  | some entry =>
    if (checkpoint.get "checkpoint_id").eqPy (.str entry.checkpointId) then .ok entry
    else .error (checkpointIntegrityError "cancelled checkpoint is missing its interaction")
  | none => .error (checkpointIntegrityError "cancelled checkpoint is missing its interaction")

/-- What the reconciliation makes of a document. -/
def reconciledState (state : Dict) (checkpoint : Value) (cancellation : ExecutionCancellation)
    (submittedBy : String) : Except PyError Dict :=
  if hasInteractionRef checkpoint then do
    let journal ← readJournal host.interaction ((Value.dict state).get interactionJournalKey)
    let entry ← requireCancelledEntry journal checkpoint
    let recorded ← recordCancellation host journal entry cancellation.reason submittedBy
      cancellation.requestedAtMs
    let (applied, _) ← applyCheckpointInteractionReceipt host.interaction (putJournal state recorded)
      checkpoint ("cancelled:" ++ checkpointIdOf checkpoint)
    return dropCheckpoint applied
  else .ok (dropCheckpoint state)

/-- One round ends with a result, or a conflict lets another round start. -/
inductive Round where
  | done (snapshot : SessionSnapshot) (cancellation : Option ExecutionCancellation)
  | conflict (error : PyError)

def checkCancellation (domain : ExecutionCheckpointDomain) (cancellation : ExecutionCancellation) :
    Except PyError Unit :=
  raiseIf (!decide (cancellation.executionId = domain.executionId
      ∧ cancellation.ownerId = domain.ownerId))
    (leaseError host.reprStr "ExecutionLeaseError"
      "execution cancellation store returned a different owner" domain.executionId domain.ownerId
      (some domain.fencingToken))

def requireRevision (message : String) : Option Int → Except PyError Int
  | some revision => .ok revision
  | none => .error (.typeError message)

def saveCancelled (expectedRevision : Int) (domain : ExecutionCheckpointDomain)
    (cancellation : ExecutionCancellation) : StoreProg Round := do
  let saved ← (Prog.call (I := StorePort) (ε := PyError)
    (.save (.saveIfRevisionAndExecutionCancelled domain.executionId domain.ownerId) sessionId state
      expectedRevision) Prog.lift).attempt
  match saved with
  | .error e => if isRevisionConflict e then .ret (.conflict e) else .raise e
  | .ok nextRevision => do
    Prog.raiseIf (nextRevision ≤ expectedRevision)
      (checkpointPersistenceError
        "cancellation-aware checkpoint CAS returned an invalid revision")
    return .done { state, revision := some nextRevision } (some cancellation)

def reconcileBound (sessionId submittedBy : String) (snapshot : SessionSnapshot) (checkpoint : Value)
    (domain : ExecutionCheckpointDomain) : StoreProg Round := do
  Prog.raiseIf (!(host.supports "load_execution_cancellation"
      && host.supports "save_if_revision_and_execution_cancelled"))
    (.typeError ("execution checkpoint cancellation requires atomic cancellation-aware session "
      ++ "storage"))
  let found ← .call (.loadExecutionCancellation domain.executionId domain.ownerId) Prog.lift
  match found with
  | none => .ret (.done snapshot none)
  | some cancellation => do
    Prog.lift (checkCancellation host domain cancellation)
    let state ← Prog.lift (reconciledState host snapshot.state checkpoint cancellation submittedBy)
    let expected ← Prog.lift (requireRevision
      "execution checkpoint cancellation requires revisioned storage" snapshot.revision)
    saveCancelled sessionId state expected domain cancellation

def reconcileRound (sessionId submittedBy : String) : StoreProg Round := do
  let snapshot ← loadSnapshot host sessionId
  let bound ← Prog.lift (checkpointDomain host sessionId snapshot)
  match bound with
  | none => .ret (.done snapshot none)
  | some (checkpoint, domain) => reconcileBound host sessionId submittedBy snapshot checkpoint domain

/-- `for _ in range(rounds)`, with the last conflict. -/
def reconcileRounds (sessionId submittedBy : String) :
    Nat → Option PyError → StoreProg (SessionSnapshot × Option ExecutionCancellation)
  | 0, some e => .raise e
  | 0, none => .raise (checkpointPersistenceError
      "cancelled checkpoint reconciliation did not converge")
  | rounds + 1, _ => do
    match ← reconcileRound host sessionId submittedBy with
    | .done snapshot cancellation => .ret (snapshot, cancellation)
    | .conflict e => reconcileRounds sessionId submittedBy rounds (some e)

/-- `reconcile_cancelled_execution_checkpoint`. -/
def reconcileCancelledExecutionCheckpoint (sessionId submittedBy : String) :
    StoreProg (SessionSnapshot × Option ExecutionCancellation) :=
  if sessionId.isEmpty then .ret (.empty, none)
  else reconcileRounds host sessionId submittedBy 16 none

/-! ### Saving a receipt -/

def resolveBoundFence (sessionId checkpointId : String) (checkpoint : Value)
    (domain : ExecutionCheckpointDomain) (executionFence : Option ExecutionFence) :
    Except PyError (Option ExecutionFence) := do
  raiseIf (!(checkpoint.get "checkpoint_id").eqPy (.str checkpointId))
    (checkpointCompatibilityError "interaction receipt belongs to a different checkpoint")
  if domain.executionId = sessionId then return executionFence
  else do
    raiseIf (executionFence.any fun fence => !decide (fence.executionId = domain.executionId
        ∧ fence.ownerId = domain.ownerId))
      (checkpointCompatibilityError
        "interaction receipt execution fence does not match its checkpoint")
    return executionFence

/-- `resolve_interaction_execution_fence`. -/
def resolveInteractionExecutionFence (sessionId checkpointId : String) (snapshot : SessionSnapshot)
    (executionFence : Option ExecutionFence) : Except PyError (Option ExecutionFence) := do
  match ← checkpointDomain host sessionId snapshot with
  | none => return executionFence
  | some (checkpoint, domain) =>
    resolveBoundFence sessionId checkpointId checkpoint domain executionFence

def saveNotCancelled (snapshot : SessionSnapshot) (expectedRevision : Option Int)
    (domain : ExecutionCheckpointDomain) : StoreProg SessionSnapshot := do
  Prog.raiseIf (!host.supports "save_if_revision_and_execution_not_cancelled")
    (.typeError ("descendant interaction receipt requires atomic cancellation-aware session "
      ++ "storage"))
  let revision ← Prog.lift (requireRevision
    "descendant interaction receipt requires revisioned session storage"
    (snapshot.expected expectedRevision))
  let nextRevision ← .call (.save (.saveIfRevisionAndExecutionNotCancelled domain.executionId
    domain.ownerId) sessionId state revision) Prog.lift
  Prog.raiseIf (nextRevision ≤ revision)
    (checkpointPersistenceError "cancellation-aware receipt CAS returned an invalid revision")
  return { state, revision := some nextRevision }

/-- `save_interaction_session_state`. -/
def saveInteractionSessionState (checkpointId : String) (snapshot : SessionSnapshot)
    (expectedRevision : Option Int) (executionFence : Option ExecutionFence) :
    StoreProg SessionSnapshot := do
  let effectiveFence ← Prog.lift
    (resolveInteractionExecutionFence host sessionId checkpointId snapshot executionFence)
  let bound ← Prog.lift (checkpointDomain host sessionId snapshot)
  match bound, effectiveFence with
  | some (_, domain), none => saveNotCancelled host sessionId state snapshot expectedRevision domain
  | _, _ => saveSessionState host sessionId state expectedRevision effectiveFence

end Runtime

end Unchain.Memory
