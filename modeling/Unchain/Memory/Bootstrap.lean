import Unchain.Memory.Restore

/-!
The bootstrap of a run from its session (`memory/bootstrap.py`, `memory/durability.py`).

Two harnesses restore a session: one loads its semantic memory together with its checkpoint, the
other only the checkpoint. Both return a delta of state updates.
-/

namespace Unchain.Memory

open Lib Lib.Process Lib.Effect Interaction Python

section Bootstrap

variable (host : RuntimeHost)

/-! ### `bootstrap_session` -/

/-- The arguments of `bootstrap_session`. -/
structure BootstrapCall where
  sessionId : String
  memoryNamespace : String
  incomingMessages : List Value
  resumeMode : Bool
  provider : String
  model : String
  resumeContinuation : Option Value

/-- What `bootstrap_session` returns. -/
structure Bootstrapped where
  mergedMessages : List Value
  loadedState : Dict
  prepareInfo : Dict
  summaryText : String

/-- `_resolve_memory_namespace`. -/
def resolveMemoryNamespace (sessionId memoryNamespace : String) : String :=
  if !(strip memoryNamespace).isEmpty then strip memoryNamespace else strip sessionId

/-- `_ensure_checkpoint_extends_semantic_history`. -/
def ensureCheckpointExtendsSemanticHistory (history : List Value) (checkpoint : Value) :
    Except PyError Unit :=
  raiseIf (!history.isEmpty && !(isList (checkpoint.get "transcript")
      && Value.eqItems ((transcriptOf checkpoint).take history.length) history))
    (checkpointCompatibilityError ("stored semantic history diverges from the execution checkpoint; "
      ++ "refusing to restore a stale checkpoint"))

/-- `_split_system_and_non_system`. -/
def splitSystemAndNonSystem (messages : List Value) : List Value × List Value :=
  (messages.filter isDict).partition fun message => (message.get "role").eqPy (.str "system")

/-- `for contribution in incoming_systems`: add those that are not there. -/
def addMissing (systems incomingSystems : List Value) : List Value :=
  incomingSystems.foldl
    (fun known contribution =>
      if known.any contribution.eqPy then known else known ++ [contribution]) systems

/-- `_merge_history_and_incoming`. -/
def mergeHistoryAndIncoming (history incoming : List Value) : List Value :=
  let cleanHistory := history.filter isDict
  let cleanIncoming := incoming.filter isDict
  if cleanHistory.isEmpty then cleanIncoming
  else if cleanIncoming.isEmpty then cleanHistory
  else
    let (incomingSystems, incomingNonSystem) := splitSystemAndNonSystem cleanIncoming
    let (historySystems, historyNonSystem) := splitSystemAndNonSystem cleanHistory
    addMissing historySystems incomingSystems ++ historyNonSystem ++ incomingNonSystem

def BootstrapCall.restore (c : BootstrapCall) (history : List Value) (checkpoint : Value) :
    Except PyError (List Value) := do
  ensureCheckpointExtendsSemanticHistory history checkpoint
  ensureCheckpointCompatible host.interaction checkpoint c.sessionId c.provider c.model
  if c.resumeMode then
    let messages ← restoreResumeCheckpointMessages host.interaction checkpoint c.incomingMessages
      c.resumeContinuation
    return messages.filter isDict
  else do
    let messages ← restoreFreshCheckpointMessages host.interaction checkpoint c.incomingMessages
    mergeCheckpointTranscriptWithIncoming messages c.incomingMessages

def BootstrapCall.merge (c : BootstrapCall) (history : List Value) : Except PyError (List Value) :=
  if c.resumeMode then .ok (c.incomingMessages.filter isDict)
  else do
    ensureSessionDeltaInput history c.incomingMessages
    return mergeHistoryAndIncoming history c.incomingMessages

/-- The messages that the run starts from. -/
def BootstrapCall.merged (c : BootstrapCall) (history : List Value) :
    Option Value → Except PyError (List Value)
  | some checkpoint => c.restore host history checkpoint
  | none => c.merge history

/-- `validate_execution_checkpoint(state.get(EXECUTION_CHECKPOINT_KEY))`, if the key is there. -/
def storedCheckpoint (state : Dict) : Except PyError (Option Value) :=
  match Assoc.get executionCheckpointKey state with
  | none => .ok none
  | some raw => (validateExecutionCheckpoint host.interaction raw).map some

/-- `int(state.get(key) or 0)`. -/
def countOf (state : Dict) (key : String) : Except PyError Int :=
  (((Value.dict state).get key).or (.int 0)).toInt

/-- `session_snapshot.revision`, `revision_supported` and `consistency`. -/
def revisionInfo (snapshot : SessionSnapshot) : Dict :=
  [("session_revision", (snapshot.revision.map Value.int).getD .none),
    ("session_revision_supported", .bool snapshot.revision.isSome),
    ("session_consistency",
      .str (if snapshot.revision.isSome then "compare_and_swap" else "best_effort"))]

def checkpointInfo (checkpoint : Option Value) : Dict :=
  [("execution_checkpoint_restored", .bool checkpoint.isSome),
    ("execution_checkpoint_status",
      .str ((checkpoint.map fun c => checkpointText host.interaction c "status").getD "")),
    ("execution_checkpoint_id",
      .str ((checkpoint.map fun c => checkpointText host.interaction c "checkpoint_id").getD ""))]

/-- What `bootstrap_session` makes of the snapshot it loaded. -/
def BootstrapCall.read (c : BootstrapCall) (snapshot : SessionSnapshot) :
    Except PyError Bootstrapped := do
  let loadedState := snapshot.state
  let history := ((Value.dict loadedState).get "messages").items
  let summaryText := strip
    ((((Value.dict loadedState).get "summary").or (.str "")).toStr host.interaction.display)
  let checkpoint ← storedCheckpoint host loadedState
  let mergedMessages ← c.merged host history checkpoint
  let vectorIndexedUntil ← countOf loadedState "vector_indexed_until"
  let longTermIndexedUntil ← countOf loadedState "long_term_indexed_until"
  let longTermPendingTurnCount ← countOf loadedState "long_term_pending_turn_count"
  return {
    mergedMessages, loadedState, summaryText
    prepareInfo :=
      [("applied", .bool true), ("session_id", .str c.sessionId),
        ("memory_namespace", .str (resolveMemoryNamespace c.sessionId c.memoryNamespace)),
        ("resume_mode", .bool c.resumeMode), ("loaded_message_count", .int history.length),
        ("merged_message_count", .int mergedMessages.length),
        ("summary_present", .bool !summaryText.isEmpty),
        ("vector_indexed_until", .int vectorIndexedUntil),
        ("long_term_indexed_until", .int longTermIndexedUntil),
        ("long_term_pending_turn_count", .int longTermPendingTurnCount)]
      ++ checkpointInfo host checkpoint ++ revisionInfo snapshot }

/-- What `bootstrap_session` returns without a session. -/
def BootstrapCall.unnamed (c : BootstrapCall) : Bootstrapped where
  mergedMessages := c.incomingMessages.filter isDict
  loadedState := []
  prepareInfo :=
    [("applied", .bool false), ("session_id", .str ""),
      ("memory_namespace", .str (resolveMemoryNamespace c.sessionId c.memoryNamespace)),
      ("resume_mode", .bool c.resumeMode), ("skip_reason", .str "missing_session_id")]
  summaryText := ""

/-- The default of `submitted_by`. -/
def cancelledTree : String := "runtime:cancelled_execution_tree"

/-- `bootstrap_session`. -/
def bootstrapSession (c : BootstrapCall) : StoreProg Bootstrapped :=
  if c.sessionId.isEmpty then .ret c.unnamed
  else do
    let (snapshot, _) ← reconcileCancelledExecutionCheckpoint host c.sessionId cancelledTree
    Prog.lift (c.read host snapshot)

/-- `load_execution_checkpoint`. -/
def loadExecutionCheckpoint (sessionId : String) : StoreProg (Option Value) :=
  if sessionId.isEmpty then .ret none
  else do
    let (snapshot, cancellation) ←
      reconcileCancelledExecutionCheckpoint host sessionId cancelledTree
    if cancellation.isSome then .ret none else Prog.lift (storedCheckpoint host snapshot.state)

/-! ### The harnesses -/

inductive BootstrapPhase where
  | bootstrap | onResume
deriving DecidableEq

/-- What the harnesses read of a run. -/
structure MemoryContext where
  phase : BootstrapPhase
  sessionId : String
  memoryNamespace : String
  provider : String
  model : String
  previousResponseId : Option String
  memoryState : Dict
  /-- `state.transcript`. -/
  transcript : List Value
  /-- `latest_messages()`. -/
  latestMessages : List Value
  resumeMode : Bool
  /-- The continuation of the event, if it is a dictionary. -/
  continuation : Option Value

/-- The updates of a `build_memory_delta`. -/
structure MemoryDelta where
  createdBy : String
  stateUpdates : Dict
  trace : Dict

variable (c : MemoryContext)

/-- The harness ran before in this run: a resumed run asks again. -/
def MemoryContext.loaded (key : String) : Bool :=
  c.phase = .onResume && ((Value.dict c.memoryState).get key).truthy

def MemoryContext.call : BootstrapCall where
  sessionId := c.sessionId
  memoryNamespace := c.memoryNamespace
  incomingMessages := c.transcript
  resumeMode := c.resumeMode
  provider := c.provider
  model := c.model
  resumeContinuation := c.continuation

/-- `ensure_no_external_provider_history`, on a fresh run of a session. -/
def MemoryContext.ensureOwned : Except PyError Unit :=
  if c.phase = .bootstrap ∧ !c.sessionId.isEmpty ∧ !c.resumeMode then
    ensureNoExternalProviderHistory c.provider c.previousResponseId
  else .ok ()

/-- `next_model_input`, which the pending context of a checkpoint leaves. -/
def MemoryContext.pendingInput (checkpoint : Value) : Except PyError Dict :=
  match checkpoint.get "pending_model_context" with
  | .list pending =>
    if c.resumeMode then .ok [("next_model_input", .list pending)]
    else (mergeCheckpointTranscriptWithIncoming pending c.transcript).map fun merged =>
      [("next_model_input", .list merged)]
  | _ => .ok []

/-- The update of `key`, when the checkpoint holds a dictionary. -/
def dictUpdateOf (checkpoint : Value) (key update : String) : Dict :=
  match checkpoint.get key with
  | .dict es => [(update, .dict es)]
  | _ => []

def providerUpdate (maximum : Int) : String × Value :=
  ("provider_state", .dict [("previous_response_id", .none),
    ("use_previous_response_chain", .bool false), ("max_context_window_tokens", .int maximum)])

/-- What `MemoryBootstrapHarness` restores of a checkpoint, if one was restored. -/
def MemoryContext.restoreLoaded (restored : Bool) (loadedState : Dict) : Except PyError Dict :=
  let checkpoint := (Value.dict loadedState).get executionCheckpointKey
  let frame := dictUpdateOf checkpoint "replay_frame" "provider_replay_frame"
  if !restored then .ok []
  else if isDict checkpoint then do
    let pending ← c.pendingInput checkpoint
    let iteration ← ((checkpoint.get "iteration").or (.int 0)).toInt
    let maximum ← ((checkpoint.get "max_context_window_tokens").or (.int 0)).toInt
    return frame ++ pending ++ [("iteration", .int iteration)]
      ++ dictUpdateOf checkpoint "token_state" "token_state"
      ++ dictUpdateOf checkpoint "workspace_change_state" "workspace_change_state"
      ++ [providerUpdate maximum]
  else .ok (frame ++ [providerUpdate 0])

/-- `prepare_info.get(key)`, as a text. -/
def infoText (info : Dict) (key : String) : Value :=
  .str (checkpointText host.interaction (.dict info) key)

/-- `memory_state` of `MemoryBootstrapHarness`. -/
def MemoryContext.memoryUpdate (b : Bootstrapped) (restored : Bool) : Except PyError Dict := do
  let vectorIndexedUntil ← countOf b.loadedState "vector_indexed_until"
  let longTermIndexedUntil ← countOf b.loadedState "long_term_indexed_until"
  let longTermPendingTurnCount ← countOf b.loadedState "long_term_pending_turn_count"
  return [("loaded", .bool !c.sessionId.isEmpty), ("resume_mode", .bool c.resumeMode),
    ("session_id", .str c.sessionId),
    ("memory_namespace", (Value.dict b.prepareInfo).getD "memory_namespace" (.str c.memoryNamespace)),
    ("session_snapshot", .dict b.loadedState), ("vector_indexed_until", .int vectorIndexedUntil),
    ("long_term_indexed_until", .int longTermIndexedUntil),
    ("long_term_pending_turn_count", .int longTermPendingTurnCount), ("summary", .str b.summaryText),
    ("execution_checkpoint_restored", .bool restored),
    ("execution_checkpoint_status", infoText host b.prepareInfo "execution_checkpoint_status"),
    ("execution_checkpoint_id", infoText host b.prepareInfo "execution_checkpoint_id"),
    ("session_revision", (Value.dict b.prepareInfo).get "session_revision"),
    ("session_revision_supported",
      .bool ((Value.dict b.prepareInfo).get "session_revision_supported").truthy),
    ("session_consistency",
      .str ((((Value.dict b.prepareInfo).get "session_consistency").or (.str "best_effort")).toStr
        host.interaction.display))]

/-- `optimizer_state` of `MemoryBootstrapHarness`. -/
def summaryUpdate (summaryText : String) : Dict :=
  if summaryText.isEmpty then []
  else [("optimizer_state", .dict [("llm_summary", .dict [("summary", .str summaryText)])])]

/-- The delta of `MemoryBootstrapHarness` over a bootstrapped session. -/
def MemoryContext.memoryDelta (b : Bootstrapped) : Except PyError MemoryDelta := do
  let restored := ((Value.dict b.prepareInfo).get "execution_checkpoint_restored").truthy
  let memoryState ← c.memoryUpdate host b restored
  let checkpointUpdates ← c.restoreLoaded restored b.loadedState
  return {
    createdBy := "memory.memory_bootstrap"
    stateUpdates := [("transcript", .list b.mergedMessages), ("memory_state", .dict memoryState),
        ("memory_prepare_info", .dict b.prepareInfo)]
      ++ summaryUpdate b.summaryText ++ checkpointUpdates
    trace := [("loaded_message_count",
        (Value.dict b.prepareInfo).getD "loaded_message_count" (.int 0)),
      ("resume_mode", .bool c.resumeMode)] }

/-- `MemoryBootstrapHarness.build_memory_delta`. -/
def memoryBootstrap : StoreProg (Option MemoryDelta) :=
  if c.loaded "loaded" then .ret none
  else do
    Prog.lift c.ensureOwned
    let bootstrapped ← bootstrapSession host c.call
    Prog.lift ((c.memoryDelta host bootstrapped).map some)

/-- The messages that `DurabilityBootstrapHarness` restores. -/
def MemoryContext.restoreDurable (checkpoint : Value) : Except PyError (List Value) := do
  ensureCheckpointCompatible host.interaction checkpoint c.sessionId c.provider c.model
  if c.resumeMode then
    restoreResumeCheckpointMessages host.interaction checkpoint c.latestMessages c.continuation
  else do
    let messages ← restoreFreshCheckpointMessages host.interaction checkpoint c.latestMessages
    mergeCheckpointTranscriptWithIncoming messages c.latestMessages

/-- `next_model_input` of `DurabilityBootstrapHarness`. -/
def copiedInput (checkpoint : Value) : Dict :=
  match checkpoint.get "pending_model_context" with
  | .list pending => [("next_model_input", .list pending)]
  | _ => []

/-- What `DurabilityBootstrapHarness` restores of a checkpoint. -/
def MemoryContext.durableUpdates : Option Value → Except PyError Dict
  | none => .ok []
  | some checkpoint => do
    let messages ← c.restoreDurable host checkpoint
    let iteration ← ((checkpoint.get "iteration").or (.int 0)).toInt
    let maximum ← ((checkpoint.get "max_context_window_tokens").or (.int 0)).toInt
    return [("transcript", .list messages),
        ("provider_replay_frame", checkpoint.get "replay_frame"), ("iteration", .int iteration),
        ("token_state", (checkpoint.get "token_state").or (.dict [])),
        ("workspace_change_state", (checkpoint.get "workspace_change_state").or (.dict [])),
        providerUpdate maximum]
      ++ copiedInput checkpoint

/-- The trace of `DurabilityBootstrapHarness`. -/
def withoutSemanticMemory (prepareInfo : Dict) : Dict :=
  prepareInfo ++ [("semantic_memory_loaded", .bool false)]

/-- The delta of `DurabilityBootstrapHarness` without a session. -/
def MemoryContext.skipped : MemoryDelta where
  createdBy := "memory.memory_durability_bootstrap"
  stateUpdates := [("memory_state", .dict [("durability_checkpoint_loaded", .bool true),
    ("resume_mode", .bool c.resumeMode), ("execution_checkpoint_restored", .bool false)])]
  trace := withoutSemanticMemory [("applied", .bool false), ("session_id", .str ""),
    ("resume_mode", .bool c.resumeMode), ("execution_checkpoint_restored", .bool false),
    ("skip_reason", .str "missing_session_id")]

/-- The delta of `DurabilityBootstrapHarness` over the checkpoint and the snapshot it loaded. -/
def MemoryContext.durableDelta (checkpoint : Option Value) (snapshot : SessionSnapshot) :
    Except PyError MemoryDelta := do
  raiseIf (checkpoint.isNone && c.resumeMode)
    (checkpointResumeRequiredError ("durability-only interaction resume requires a persisted "
      ++ "execution checkpoint"))
  let updates ← c.durableUpdates host checkpoint
  return {
    createdBy := "memory.memory_durability_bootstrap"
    stateUpdates := ("memory_state", .dict ([("durability_checkpoint_loaded", .bool true),
        ("resume_mode", .bool c.resumeMode)] ++ checkpointInfo host checkpoint
        ++ revisionInfo snapshot)) :: updates
    trace := withoutSemanticMemory ([("applied", .bool true), ("session_id", .str c.sessionId),
        ("resume_mode", .bool c.resumeMode)] ++ checkpointInfo host checkpoint
      ++ revisionInfo snapshot) }

/-- `DurabilityBootstrapHarness.build_memory_delta`. -/
def durabilityBootstrap : StoreProg (Option MemoryDelta) :=
  if c.loaded "durability_checkpoint_loaded" then .ret none
  else if c.sessionId.isEmpty then .ret (some c.skipped)
  else do
    let checkpoint ← loadExecutionCheckpoint host c.sessionId
    let snapshot ← loadSnapshot host c.sessionId
    Prog.lift ((c.durableDelta host checkpoint snapshot).map some)

end Bootstrap

end Unchain.Memory
