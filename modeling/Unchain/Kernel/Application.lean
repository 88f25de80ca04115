import Unchain.Kernel.ApplyDelta

/-!
Applying a run delta (`kernel/application.py`).

A `RunDelta` carries context operations: edits of the conversation or of the
model context, assignments and merges along a path of the runtime state,
artifacts, events and suspension. `applyRunDelta` runs them in order, then the
state updates, then the suspend signal.
-/

namespace Unchain.Kernel

open Python Lib Lib.Effect

/-! ### Context operations -/

inductive ContextTarget where
  | conversation | modelContext | runtimeState | artifacts | events
deriving DecidableEq

def ContextTarget.value : ContextTarget → String
  | .conversation => "conversation"
  | .modelContext => "model_context"
  | .runtimeState => "runtime_state"
  | .artifacts => "artifacts"
  | .events => "events"

inductive ContextOp where
  | insertMessages (target : ContextTarget) (index : Int) (messages : List Value)
      (reason : String)
  | replaceMessages (target : ContextTarget) (messages : List Value) (start : Int)
      (stop : Option Int) (reason : String)
  | patchMessage (target : ContextTarget) (selector : Value) (patch : Dict) (reason : String)
  | deleteMessages (target : ContextTarget) (selector : Value) (reason : String)
  | setRuntimeState (path : List String) (value : Value)
  | mergeRuntimeState (path : List String) (value : Value)
  | createArtifact (artifact : Value) (reason : String)
  | emitEvent (event : EmitEvent)
  | requestSuspend (kind : String) (payload : Value)
  | unsupported (typeName : String)

structure RunDelta where
  createdBy : String
  contextOps : List ContextOp
  stateUpdates : Dict
  trace : Dict
  suspend : Option SuspendSignal

/-! ### Message edits -/

variable (env : KernelEnv) (delta : RunDelta)

variable (target : ContextTarget)

def messagesForTarget (opType : String) : RunM (List Value) :=
  match target with
  | .modelContext => latestMessages env
  | .conversation => do lift (deepcopyMessagesOf (← readField .transcript))
  | other => throw (.notImplementedError
      (opType ++ " target '" ++ other.value ++ "' is not supported"))

def commitMessagesForTarget (working : List Value) (opType reason : String)
    (generated : VersionId) : RunM Value := do
  if target = .conversation then
    writeField .transcript (.list (deepcopyMessages working))
  if target = .modelContext then
    writeField .nextModelInput (.list (deepcopyMessages working))
  let id ← versionsCreate env working (← readField .latestVersionId) delta.createdBy
    [("target", .str target.value), ("op_type", .str opType), ("reason", .str reason),
      ("trace", .dict delta.trace)] generated
  writeField .latestVersionId id
  return id

/-- `_normalize_message_index`: a negative index counts from the end. -/
def normalizeMessageIndex (index : Int) (length : Nat) : Except PyError Nat :=
  let resolved := if index < 0 then index + length else index
  if resolved < 0 ∨ (length : Int) ≤ resolved then
    .error (.indexError ("message index " ++ toString index ++ " is out of range"))
  else .ok resolved.toNat

def normalizeAll (length : Nat) : List Value → Except PyError (List Nat)
  | [] => .ok []
  | v :: rest => do
    let i ← normalizeMessageIndex (← v.toInt) length
    return i :: (← normalizeAll length rest)

/-- `_unique_indices`: the first occurrence of each index. -/
def uniqueIndices (indices : List Nat) : List Nat :=
  indices.foldl (fun seen i => if i ∈ seen then seen else seen ++ [i]) []

/-- An optional bound of a span selector, counted from the end when negative. -/
def spanBound (selector : Value) (key : String) (default : Nat) (length : Nat) :
    Except PyError Int := do
  let bound ← (selector.getD key (.int default)).toInt
  return if bound < 0 then bound + length else bound

def resolveMessageIndices (messages : List Value) (selector : Value) :
    Except PyError (List Nat) :=
  match selector with
  | .int _ | .bool _ => do
    return [← normalizeMessageIndex (← selector.toInt) messages.length]
  | .dict es =>
    if selector.hasKey "index" then do
      return [← normalizeMessageIndex (← (selector.get "index").toInt) messages.length]
    else if selector.hasKey "indices" then do
      return uniqueIndices
        (← normalizeAll messages.length (← iterate (selector.get "indices")))
    else if selector.hasKey "start" || selector.hasKey "end" then do
      let start ← spanBound selector "start" 0 messages.length
      let stop ← spanBound selector "end" messages.length messages.length
      let i := clampIndex start messages.length
      let j := max i (clampIndex stop messages.length)
      return (List.range j).drop i
    else
      return (List.range messages.length).filter fun i =>
        es.all fun entry => ((messages.getD i .none).get entry.1).eqPy entry.2
  | .list xs => do return uniqueIndices (← normalizeAll messages.length xs)
  | _ => .error (.typeError "unsupported message selector")

/-- `{**message, **patch}` at the given positions. -/
def patchAt (patch : Dict) (indices : List Nat) (messages : List Value) : List Value :=
  messages.mapIdx fun i m =>
    if i ∈ indices then .dict (Assoc.update m.entries patch) else m

/-- Delete the given positions. -/
def deleteAt (indices : List Nat) (messages : List Value) : List Value :=
  ((List.range messages.length).filter fun i => i ∉ indices).map fun i => messages.getD i .none

def applyInsertMessagesOp (index : Int) (messages : List Value) (reason : String)
    (generated : VersionId) : RunM Value := do
  let working ← messagesForTarget env target "InsertMessagesOp"
  let i := clampIndex index working.length
  commitMessagesForTarget env delta target
    (spliceSpan working i i (deepcopyMessages messages)) "InsertMessagesOp" reason generated

def applyReplaceMessagesOp (messages : List Value) (start : Int) (stop : Option Int)
    (reason : String) (generated : VersionId) : RunM Value := do
  let working ← messagesForTarget env target "ReplaceMessagesOp"
  let i := clampIndex start working.length
  let stop := stop.getD working.length
  let stop := if stop < 0 then stop + working.length else stop
  let j := max i (clampIndex stop working.length)
  commitMessagesForTarget env delta target
    (spliceSpan working i j (deepcopyMessages messages)) "ReplaceMessagesOp" reason generated

def applySelectedEdit (selector : Value) (edit : List Nat → List Value → List Value)
    (opType reason : String) (generated : VersionId) : RunM Value := do
  let working ← messagesForTarget env target opType
  let indices ← lift (resolveMessageIndices working selector)
  if indices = [] then readField .latestVersionId
  else commitMessagesForTarget env delta target (edit indices working) opType reason generated

/-! ### Runtime state -/

/-- The attributes `hasattr` finds on a run state. -/
inductive StateAttr where
  | field (f : Field)
  | versions
  | method (name : String)

def Field.name : Field → String
  | .transcript => "transcript"
  | .latestVersionId => "latest_version_id"
  | .iteration => "iteration"
  | .providerState => "provider_state"
  | .tokenState => "token_state"
  | .sessionState => "session_state"
  | .suspendState => "suspend_state"
  | .pendingToolCalls => "pending_tool_calls"
  | .lastModelTurn => "last_model_turn"
  | .toolBatchState => "tool_batch_state"
  | .runStatus => "run_status"
  | .lastContinuation => "last_continuation"
  | .nextModelInput => "next_model_input"
  | .remoteContinuationInput => "remote_continuation_input"
  | .memoryState => "memory_state"
  | .memoryPrepareInfo => "memory_prepare_info"
  | .memoryCommitInfo => "memory_commit_info"
  | .artifacts => "artifacts"
  | .workspaceChangeState => "workspace_change_state"
  | .optimizerState => "optimizer_state"
  | .subagentState => "subagent_state"
  | .runLedger => "run_ledger"
  | .componentState => "component_state"
  | .metadata => "metadata"

def Field.all : List Field :=
  [.transcript, .latestVersionId, .iteration, .providerState, .tokenState, .sessionState,
    .suspendState, .pendingToolCalls, .lastModelTurn, .toolBatchState, .runStatus,
    .lastContinuation, .nextModelInput, .remoteContinuationInput, .memoryState,
    .memoryPrepareInfo, .memoryCommitInfo, .artifacts, .workspaceChangeState, .optimizerState,
    .subagentState, .runLedger, .componentState, .metadata]

def methodNames : List String :=
  ["component_bucket", "_sync_all_component_state", "seed_messages", "latest_messages",
    "rebuild_working_version_from_transcript", "rebuild_working_version", "view_messages",
    "apply_delta", "_apply_state_updates"]

def stateAttr (head : String) : Option StateAttr :=
  match Field.all.find? fun f => f.name = head with
  | some f => some (.field f)
  | none =>
    if head = "versions" then some .versions
    else if head ∈ methodNames then some (.method head)
    else none

/-- The plain value behind an attribute; a graph or a method has none. -/
def attrData (s : RunState) : StateAttr → Option Value
  | .field f => some (s.field f)
  | .versions => match s.versions with
      | .data v => some v
      | _ => none
  | .method name => Assoc.get name s.overrides

/-- `setattr(state, head, value)`. -/
def assignState (attr : StateAttr) (value : Value) : RunM Unit :=
  modify fun s => match attr with
    | .field f => s.write f value
    | .versions => { s with versions := .data value }
    | .method name => { s with overrides := Assoc.set name value s.overrides }

def cleanPath (path : List String) : List String := path.filter fun part => part ≠ ""

/-- `_apply_runtime_state_op`. -/
def applyRuntimeStateOp (path : List String) (value : Value) : RunM Unit :=
  match cleanPath path with
  | [] => throw (.valueError "SetRuntimeStateOp.path must not be empty")
  | [head] =>
    if head = "workspace_change_state" then applyStateUpdates env [(head, value)]
    else match stateAttr head with
      | some attr => assignState attr value
      | none => setInBucket head "value" value
  | head :: rest => do
    let s ← get
    match stateAttr head with
    | some attr =>
      match attrData s attr with
      | some (.dict es) => assignState attr (.dict (setPath es rest value))
      | _ => updateBucket head fun bucket => setPath bucket rest value
    | none => updateBucket head fun bucket => setPath bucket rest value

/-- The names `hasattr` finds on a version graph. -/
def graphAttrs : List String :=
  ["_versions", "_latest_version_id", "latest_version_id", "has_version", "version_ids",
    "get_version", "get_messages", "latest_messages", "create_version", "fork_latest",
    "activate", "lineage"]

def Versions.patch (entry : String × Value) : Versions → Versions
  | .patched attrs => .patched (Assoc.set entry.1 entry.2 attrs)
  | _ => .patched [entry]

/-- Assign an attribute of the graph itself; its `latest_version_id` is read-only. -/
def assignGraphAttr (entry : String × Value) : RunM Unit := do
  if entry.1 = "latest_version_id" then
    throw (.attributeError "property 'latest_version_id' has no setter")
  else modify fun s => { s with versions := s.versions.patch entry }

def unknownFields (head : String) (unknown : Dict) : PyError :=
  .valueError ("cannot merge unknown " ++ head ++ " fields: "
    ++ String.intercalate ", " (Assoc.keys unknown))

def assignObjectAttr (attr : StateAttr) (entry : String × Value) : RunM Unit := do
  let s ← get
  match attrData s attr with
  | some current => do assignState attr (← lift (setattr env.toEnv current entry.1 entry.2))
  | none => assignGraphAttr entry

/-- Whether the object behind an attribute has the name: a graph has its own, a
bound method none. -/
def objectHas (s : RunState) (attr : StateAttr) (name : String) : Bool :=
  match attrData s attr, attr with
  | some root, _ => hasattr env.toEnv root name
  | none, .versions => graphAttrs.contains name
  | none, _ => false

def mergeIntoObject (head : String) (attr : StateAttr) (value : Dict) : RunM Unit := do
  let s ← get
  match value.filter fun entry => !objectHas env s attr entry.1 with
  | [] => each (assignObjectAttr env attr) value
  | unknown => throw (unknownFields head unknown)

/-- Merge into the `value` of a bucket. -/
def mergeBucketValue (value bucket : Dict) : Dict :=
  match Assoc.get "value" bucket with
  | some (.dict es) => Assoc.set "value" (.dict (Assoc.update es value)) bucket
  | _ => Assoc.set "value" (.dict value) bucket

/-- Merge into what an attribute of the state holds: a dictionary, an object, or,
along a longer path, the component bucket of the same name. -/
def mergeIntoAttr (head : String) (attr : StateAttr) (rest : List String) (entries : Dict) :
    RunM Unit := do
  let s ← get
  match attrData s attr with
  | some (.dict es) => assignState attr (.dict (mergePath es rest entries))
  | _ =>
    if rest = [] then mergeIntoObject env head attr entries
    else updateBucket head fun bucket => mergePath bucket rest entries

/-- `_apply_merge_runtime_state_op`. A value that is not a dictionary, or empty,
does nothing. -/
def applyMergeRuntimeStateOp (path : List String) (value : Value) : RunM Unit :=
  match cleanPath path, value.entries with
  | [], _ => throw (.valueError "MergeRuntimeStateOp.path must not be empty")
  | _, [] => pure ()
  | ["memory_state"], entries => mergeMemory .memoryState "state" entries
  | ["memory_prepare_info"], entries => mergeMemory .memoryPrepareInfo "prepare_info" entries
  | ["memory_commit_info"], entries => mergeMemory .memoryCommitInfo "commit_info" entries
  | ["optimizer_state"], entries => mergeOptimizerState entries
  | head :: rest, entries =>
    match stateAttr head with
    | some attr => mergeIntoAttr env head attr rest entries
    | none =>
      if rest = [] then updateBucket head (mergeBucketValue entries)
      else updateBucket head fun bucket => mergePath bucket rest entries

/-! ### Artifacts and suspension -/

def artifactId (artifact : Value) : Option String :=
  match artifact.get "artifact_id" with
  | .str id => if id = "" then none else some id
  | _ => none

/-- `upsert_artifacts`: one entry per id, in order of first occurrence, the last
value of each winning; entries without an id are dropped. -/
def upsertArtifacts (existing new : List Value) : List Value :=
  ((existing ++ new).foldl (fun (byId : List (String × Value)) artifact =>
    match artifactId artifact with
    | some id => Assoc.set id artifact byId
    | none => byId) []).map Prod.snd

/-- A non-empty string, kept in the payload under its key. -/
def textEntry (key : String) (value : Value) : Dict :=
  match value with
  | .str s => if s = "" then [] else [(key, .str s)]
  | _ => []

def artifactEvent (delta : RunDelta) (artifact : Value) (id reason : String) (known : Bool) :
    EmitEvent where
  type := if known then "artifact_updated" else "artifact_created"
  payload :=
    let trace := Value.dict delta.trace
    [("artifact_id", .str id), ("artifact", artifact), ("created_by", .str delta.createdBy)]
      ++ textEntry "reason" (.str reason)
      ++ textEntry "plan_id" ((artifact.get "snapshot").get "plan_id")
      ++ textEntry "tool_name" ((trace.get "tool_name").or (trace.get "tool_call"))
      ++ textEntry "call_id" (trace.get "call_id")
      ++ textEntry "capability_created_by" (trace.get "capability_created_by")
      ++ textEntry "applied_by" (trace.get "applied_by")
  reason := reason

def emit (event : EmitEvent) : RunM Unit :=
  match env.emitEvent with
  | some callback => lift (callback event)
  | none => pure ()

def applyCreateArtifactOp (artifact : Value) (reason : String) : RunM Unit := do
  let artifact := Value.dict artifact.entries
  let artifacts ← readField .artifacts
  match artifactId artifact with
  | none => do
    match artifacts with
    | .list xs => writeField .artifacts (.list (xs ++ [artifact]))
    | _ => throw (.attributeError "object has no attribute 'append'")
  | some id => do
    let existing ← lift (iterate artifacts)
    let known := existing.any fun item => (item.get "artifact_id").eqPy (.str id)
    let previous ← lift (iterate (artifacts.or (.list [])))
    writeField .artifacts (.list (upsertArtifacts previous [artifact]))
    emit env (artifactEvent delta artifact id reason known)

/-- `_suspend_payload_with_context_version`. -/
def suspendPayload (latest : Value) (payload : Value) : Value :=
  let enriched := Value.dict payload.entries
  if !latest.isNone && !enriched.hasKey "context_version_id" then
    enriched.setKey "context_version_id" latest
  else enriched

/-! ### The whole delta -/

/-- One context operation; it returns the version id it leaves, if it sets one.
Every operation draws its own generated id. -/
def applyContextOp (op : ContextOp) (generated : VersionId) (versionId : Value) : RunM Value :=
  match op with
  | .insertMessages target index messages reason =>
    applyInsertMessagesOp env delta target index messages reason generated
  | .replaceMessages target messages start stop reason =>
    applyReplaceMessagesOp env delta target messages start stop reason generated
  | .setRuntimeState path value => do
    applyRuntimeStateOp env path value
    return versionId
  | .mergeRuntimeState path value => do
    applyMergeRuntimeStateOp env path value
    return versionId
  | .createArtifact artifact reason => do
    applyCreateArtifactOp env delta artifact reason
    return versionId
  | .emitEvent event => do
    emit env event
    return versionId
  | .requestSuspend kind payload => do
    let latest ← readField .latestVersionId
    suspendWith env (.str kind) (suspendPayload latest payload)
    return versionId
  | .patchMessage target selector patch reason =>
    applySelectedEdit env delta target selector (patchAt patch) "PatchMessageOp" reason generated
  | .deleteMessages target selector reason =>
    applySelectedEdit env delta target selector deleteAt "DeleteMessagesOp" reason generated
  | .unsupported name => throw (.typeError ("unsupported context op: " ++ name))

/-- The loop over the context operations, with the ids `uuid4` draws. -/
def applyContextOps (env : KernelEnv) (delta : RunDelta) (ids : Nat → VersionId) :
    List ContextOp → Nat → Value → RunM Value
  | [], _, versionId => return versionId
  | op :: ops, n, versionId => do
    let versionId ← applyContextOp env delta op (ids n) versionId
    applyContextOps env delta ids ops (n + 1) versionId

def applyRunUpdates (updates : Dict) : RunM Unit :=
  if updates.isEmpty then pure () else applyStateUpdates env updates

def applyRunSuspend : Option SuspendSignal → RunM Unit
  | none => pure ()
  | some signal => do
    let latest ← readField .latestVersionId
    suspendWith env (.str signal.kind) (suspendPayload latest (.dict signal.payload))

/-- A delta given to `apply_run_delta`. -/
inductive Delta where
  | harness (delta : HarnessDelta)
  | run (delta : RunDelta)

/-- `apply_run_delta`. -/
def applyRunDelta (ids : Nat → VersionId) : Delta → RunM Value
  | .harness delta => applyDelta env delta (ids 0)
  | .run delta => do
    let latest ← readField .latestVersionId
    let versionId ← applyContextOps env delta ids delta.contextOps 0 latest
    applyRunUpdates env delta.stateUpdates
    applyRunSuspend env delta.suspend
    return versionId

end Unchain.Kernel
