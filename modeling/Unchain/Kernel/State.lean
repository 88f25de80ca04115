import Unchain.Kernel.ProviderReplay
import Unchain.Kernel.Records
import Unchain.Kernel.Versioning

/-!
The run state and its deltas (`kernel/state.py`, `kernel/delta.py`).

`RunState` is mutable and dynamically typed: runtime operations assign whatever
they carry to any of its attributes. So a field holds a `Value`, the version
graph can be replaced or have its own attributes overwritten, and a method can
be hidden by an instance attribute. `RunM` is the monad of the methods; an
exception leaves the writes made before it in place.

`applyStateUpdate_within` says which fields an update can write, by its key.
-/

namespace Unchain.Kernel

open Python Lib Lib.Effect

/-! ### The state -/

/-- The fields of the dataclass, without `versions`. -/
inductive Field where
  | transcript | latestVersionId | iteration | providerState | tokenState | sessionState
  | suspendState | pendingToolCalls | lastModelTurn | toolBatchState | runStatus
  | lastContinuation | nextModelInput | remoteContinuationInput | memoryState
  | memoryPrepareInfo | memoryCommitInfo | artifacts | workspaceChangeState | optimizerState
  | subagentState | runLedger | componentState | metadata
deriving DecidableEq

/-- The attribute `versions`: a graph, a graph some of whose own attributes were
assigned from outside, or plain data put in its place. -/
inductive Versions where
  | graph (g : MessageVersionGraph)
  | patched (attrs : Dict)
  | data (value : Value)

structure RunState where
  versions : Versions
  field : Field → Value
  /-- Instance attributes that hide methods. -/
  overrides : Dict

structure EmitEvent where
  type : String
  payload : Dict
  reason : String

/-- What the kernel calls and the model does not contain. -/
structure KernelEnv extends Env where
  runBundleFromDict : RunBundleReader
  /-- The methods of a graph whose attributes were overwritten. -/
  patchedGetMessages : Dict → Value → Except PyError (List Value)
  patchedCreateVersion : Dict → List Value → Value → Except PyError (Value × Dict)
  patchedActivate : Dict → Value → Except PyError Dict
  /-- The event callback of `apply_run_delta`; it may raise. -/
  emitEvent : Option (EmitEvent → Except PyError Unit)

abbrev RunM := EStateM PyError RunState

variable (s : RunState) (f : Field) (v : Value)

def RunState.write : RunState :=
  { s with field := Function.update s.field f v }

@[simp] theorem RunState.write_field_self :
    (s.write f v).field f = v := by simp [write]

@[simp] theorem RunState.write_field_of_ne {s : RunState} {f h : Field} (ne : h ≠ f) (v : Value) :
    (s.write f v).field h = s.field h := by simp [write, ne]

@[simp] theorem RunState.write_versions :
    (s.write f v).versions = s.versions := rfl

@[simp] theorem RunState.write_overrides :
    (s.write f v).overrides = s.overrides := rfl

def readField (f : Field) : RunM Value := do return (← get).field f

def writeField (f : Field) (v : Value) : RunM Unit := modify fun s => s.write f v

def callMethod (name : String) : RunM Unit := do
  if Assoc.has name (← get).overrides then throw (.typeError "object is not callable")

@[simp] theorem readField_run (f : Field) (s : RunState) : readField f s = .ok (s.field f) s := rfl

@[simp] theorem writeField_run (f : Field) (v : Value) (s : RunState) :
    writeField f v s = .ok () (s.write f v) := rfl

/-- `component_bucket(name)` and an in-place change of the bucket it returns. -/
def updateBucket (name : String) (f : Dict → Dict) : RunM Unit := do
  callMethod "component_bucket"
  match ← readField .componentState with
  | .dict cs => writeField .componentState (.dict (putBucket cs name (f (bucketOf cs name))))
  | _ => throw (.attributeError "object has no attribute 'get'")

/-- `component_bucket(name)[key] = value`. -/
def setInBucket (name key : String) (value : Value) : RunM Unit :=
  updateBucket name (Assoc.set key value)

variable (env : KernelEnv)

def syncAllComponentState : RunM Unit := do
  let optimizers ← readField .optimizerState
  let cs ← lift (setItem (← readField .componentState) "optimizers" optimizers)
  writeField .componentState cs
  let memory : Dict := [("state", ← readField .memoryState),
    ("prepare_info", ← readField .memoryPrepareInfo),
    ("commit_info", ← readField .memoryCommitInfo)]
  updateBucket "memory" fun bucket => Assoc.update bucket memory
  setInBucket "tools" "tool_batch_state" (← lift (callCopy env.toEnv (← readField .toolBatchState)))
  setInBucket "workspace_changes" "state" (← readField .workspaceChangeState)
  setInBucket "subagents" "state" (← lift (callCopy env.toEnv (← readField .subagentState)))

def Field.default : Field → Value
  | .transcript | .pendingToolCalls | .artifacts => .list []
  | .latestVersionId | .lastModelTurn | .lastContinuation | .nextModelInput
  | .remoteContinuationInput => .none
  | .iteration => .int 0
  | .providerState => .obj .providerState
      [("provider", .none), ("model", .none), ("previous_response_id", .none),
        ("use_previous_response_chain", .bool false), ("max_context_window_tokens", .int 0)]
  | .tokenState => .obj .tokenState
      [("consumed_tokens", .int 0), ("input_tokens", .int 0), ("output_tokens", .int 0),
        ("cache_read_input_tokens", .int 0), ("cache_creation_input_tokens", .int 0),
        ("last_turn_tokens", .int 0), ("last_turn_input_tokens", .int 0),
        ("last_turn_output_tokens", .int 0), ("last_turn_cache_read_input_tokens", .int 0),
        ("last_turn_cache_creation_input_tokens", .int 0)]
  | .sessionState => .obj .sessionState [("session_id", .none), ("memory_namespace", .none)]
  | .suspendState => .obj .suspendState [("signal_kind", .none), ("payload", .dict [])]
  | .toolBatchState => ToolBatchState.empty.toValue
  | .runStatus => .str "idle"
  | .memoryState | .memoryPrepareInfo | .memoryCommitInfo | .workspaceChangeState
  | .optimizerState | .componentState | .metadata => .dict []
  | .subagentState => SubagentState.empty.toValue
  | .runLedger => .obj .runLedger []

/-- An instance before `__post_init__`, with the given fields. -/
def RunState.ofFields (field : Field → Value) : RunState where
  versions := .graph .empty
  field := field
  overrides := []

/-- `RunState()`. -/
def RunState.new : RunState :=
  endState (syncAllComponentState env (.ofFields Field.default))

/-! ### The version graph of a state -/

def versionKey (display : Display) (missing : String → PyError) : Value → Except PyError VersionId
  | .str id => .ok id
  | .list _ => .error (.typeError "unhashable type: 'list'")
  | .dict _ => .error (.typeError "unhashable type: 'dict'")
  | v => .error (missing (display v))

/-- The parent argument of `create_version`; `None` asks for the latest version. -/
def parentKey (display : Display) : Value → Except PyError (Option VersionId)
  | .none => .ok none
  | v => (versionKey display MessageVersionGraph.unknownParent v).map some

def versionsGetMessages (id : Value) : RunM (List Value) := do
  match (← get).versions with
  | .graph g => do
    let key ← lift (versionKey env.display MessageVersionGraph.unknownVersion id)
    lift (g.getMessages key)
  | .patched attrs => lift (env.patchedGetMessages attrs id)
  | .data _ => throw (.attributeError "object has no attribute 'get_messages'")

def versionsActivate (id : VersionId) : RunM Unit := do
  match (← get).versions with
  | .graph g => do
    let (_, g') ← lift (g.activate id)
    modify fun s => { s with versions := .graph g' }
  | .patched attrs => do
    let attrs' ← lift (env.patchedActivate attrs (.str id))
    modify fun s => { s with versions := .patched attrs' }
  | .data _ => throw (.attributeError "object has no attribute 'activate'")

/-- `create_version`, returning the id of the new version. -/
def versionsCreate (messages : List Value) (parent : Value) (createdBy : String) (metadata : Dict)
    (generated : VersionId) : RunM Value := do
  match (← get).versions with
  | .graph g => do
    let parentId ← lift (parentKey env.display parent)
    let (version, g') ←
      lift (g.createVersion messages parentId (some createdBy) (some metadata) none generated)
    modify fun s => { s with versions := .graph g' }
    return .str version.versionId
  | .patched attrs => do
    let (id, attrs') ← lift (env.patchedCreateVersion attrs messages parent)
    modify fun s => { s with versions := .patched attrs' }
    return id
  | .data _ => throw (.attributeError "object has no attribute 'create_version'")

def latestMessages : RunM (List Value) := do
  callMethod "latest_messages"
  let id ← readField .latestVersionId
  if id.isNone then return [] else versionsGetMessages env id

def viewMessages (versionId : Value) : RunM (List Value) := do
  callMethod "view_messages"
  let id := versionId.or (← readField .latestVersionId)
  if id.isNone then return [] else versionsGetMessages env id

def seedMessages (messages : List Value) (createdBy : String) (metadata : Dict)
    (generated : VersionId) : RunM Value := do
  callMethod "seed_messages"
  let id ← versionsCreate env messages .none createdBy metadata generated
  writeField .latestVersionId id
  writeField .transcript (.list (deepcopyMessages messages))
  return id

def rebuildWorkingVersion (messages : List Value) (createdBy : String) (metadata : Dict)
    (generated : VersionId) : RunM Value := do
  callMethod "rebuild_working_version"
  let id ← versionsCreate env messages (← readField .latestVersionId) createdBy metadata generated
  writeField .latestVersionId id
  return id

/-! ### Deltas -/

inductive MessageOp where
  | append (messages : List Value)
  | insert (index : Int) (messages : List Value)
  | replaceSpan (start stop : Int) (messages : List Value)
  | deleteSpan (start stop : Int)
  | activateVersion (versionId : VersionId)
  | unsupported (typeName : String)

namespace MessageOp

def typeName : MessageOp → String
  | .append _ => "AppendMessagesOp"
  | .insert _ _ => "InsertMessagesOp"
  | .replaceSpan _ _ _ => "ReplaceSpanOp"
  | .deleteSpan _ _ => "DeleteSpanOp"
  | .activateVersion _ => "ActivateVersionOp"
  | .unsupported name => name

def edit (op : MessageOp) (working : List Value) : List Value :=
  match op with
  | .append messages => working ++ deepcopyMessages messages
  | .insert index messages =>
    let i := clampIndex index working.length
    spliceSpan working i i (deepcopyMessages messages)
  | .replaceSpan start stop messages =>
    let i := clampIndex start working.length
    spliceSpan working i (max i (clampIndex stop working.length)) (deepcopyMessages messages)
  | .deleteSpan start stop =>
    let i := clampIndex start working.length
    spliceSpan working i (max i (clampIndex stop working.length)) []
  | .activateVersion _ => working
  | .unsupported _ => working

def isActivate : MessageOp → Bool
  | .activateVersion _ => true
  | _ => false

def editAll (ops : List MessageOp) (working : List Value) : List Value :=
  (ops.filter fun op => !op.isActivate).foldl (fun w op => op.edit w) working

end MessageOp

structure SuspendSignal where
  kind : String
  payload : Dict

structure HarnessDelta where
  createdBy : String
  baseVersionId : Option VersionId
  rebaseToLatest : Bool
  ops : List MessageOp
  stateUpdates : Dict
  trace : Dict
  suspend : Option SuspendSignal

def ofOption (id : Option VersionId) : Value := (id.map Value.str).getD .none

variable (delta : HarnessDelta) (latest : Value)

def HarnessDelta.requestedBase : Value :=
  (ofOption delta.baseVersionId).or latest

def HarnessDelta.appliedBase : Value :=
  if delta.rebaseToLatest && !latest.isNone then latest else delta.requestedBase latest

/-- Point the graph and the state at another version. -/
def activateVersion (env : KernelEnv) (id : VersionId) : RunM Unit := do
  versionsActivate env id
  writeField .latestVersionId (.str id)

/-- The op loop of `apply_delta`. -/
def applyOps (env : KernelEnv) : List MessageOp → List Value → RunM (List Value)
  | [], working => return working
  | .activateVersion id :: ops, _ => do
    activateVersion env id
    applyOps env ops (← viewMessages env (.str id))
  | .unsupported name :: _, _ => throw (.typeError ("unsupported message op: " ++ name))
  | op :: ops, working => applyOps env ops (op.edit working)

def HarnessDelta.edits (delta : HarnessDelta) : List MessageOp :=
  delta.ops.filter fun op => !op.isActivate

/-- What a version created by a delta records about it. -/
def HarnessDelta.versionMetadata : Dict :=
  [("requested_base_version_id", delta.requestedBase latest),
    ("applied_base_version_id", delta.appliedBase latest),
    ("op_types", .list (delta.edits.map fun op => .str op.typeName)),
    ("trace", .dict delta.trace)]

def commitVersion (env : KernelEnv) (delta : HarnessDelta) (latest : Value)
    (generated : VersionId) (working : List Value) : RunM Value :=
  if delta.edits.isEmpty then readField .latestVersionId
  else do
    let id ← versionsCreate env working (delta.appliedBase latest) delta.createdBy
      (delta.versionMetadata latest) generated
    writeField .latestVersionId id
    return id

/-- `apply_delta` up to its state updates: run the ops and store the new version. -/
def applyMessages (env : KernelEnv) (delta : HarnessDelta) (generated : VersionId) :
    RunM Value := do
  let latest ← readField .latestVersionId
  if (delta.requestedBase latest).isNone && !delta.ops.isEmpty then
    throw (.valueError "cannot apply a message delta before seeding a base version")
  else do
    let working ← viewMessages env (delta.appliedBase latest)
    let working ← applyOps env delta.ops working
    commitVersion env delta latest generated working

/-! ### State updates -/

inductive UpdateKey where
  | iteration | transcript | transcriptAppend | artifacts | workspaceChangeState
  | optimizerState | subagentState | memoryState | memoryPrepareInfo | memoryCommitInfo
  | pendingToolCalls | lastModelTurn | toolBatchState | runStatus | lastContinuation
  | nextModelInput | remoteContinuationInput | providerState | providerReplayFrame
  | providerReplayAppend | tokenState | sessionState | suspendState

namespace UpdateKey

def name : UpdateKey → String
  | .iteration => "iteration"
  | .transcript => "transcript"
  | .transcriptAppend => "transcript_append"
  | .artifacts => "artifacts"
  | .workspaceChangeState => "workspace_change_state"
  | .optimizerState => "optimizer_state"
  | .subagentState => "subagent_state"
  | .memoryState => "memory_state"
  | .memoryPrepareInfo => "memory_prepare_info"
  | .memoryCommitInfo => "memory_commit_info"
  | .pendingToolCalls => "pending_tool_calls"
  | .lastModelTurn => "last_model_turn"
  | .toolBatchState => "tool_batch_state"
  | .runStatus => "run_status"
  | .lastContinuation => "last_continuation"
  | .nextModelInput => "next_model_input"
  | .remoteContinuationInput => "remote_continuation_input"
  | .providerState => "provider_state"
  | .providerReplayFrame => "provider_replay_frame"
  | .providerReplayAppend => "provider_replay_append"
  | .tokenState => "token_state"
  | .sessionState => "session_state"
  | .suspendState => "suspend_state"

def all : List UpdateKey :=
  [.iteration, .transcript, .transcriptAppend, .artifacts, .workspaceChangeState,
    .optimizerState, .subagentState, .memoryState, .memoryPrepareInfo, .memoryCommitInfo,
    .pendingToolCalls, .lastModelTurn, .toolBatchState, .runStatus, .lastContinuation,
    .nextModelInput, .remoteContinuationInput, .providerState, .providerReplayFrame,
    .providerReplayAppend, .tokenState, .sessionState, .suspendState]

def ofString? (key : String) : Option UpdateKey := all.find? fun k => k.name = key

/-- Keys whose branch is guarded by `isinstance(value, ...)`; a value of another
type falls through to the metadata. -/
def accepts (k : UpdateKey) (value : Value) : Bool :=
  match k with
  | .optimizerState | .memoryState | .memoryPrepareInfo | .memoryCommitInfo | .providerState
  | .providerReplayFrame | .tokenState | .sessionState | .suspendState => value.isDict
  | .providerReplayAppend => value.isList
  | _ => true

end UpdateKey

/-- `metadata[key] = value`, the fallback of every unknown key. -/
def setMetadata (key : String) (value : Value) : RunM Unit := do
  writeField .metadata (← lift (setItem (← readField .metadata) key value))

/-- The dictionary an optimizer's value is stored as. -/
def optimizerEntry (value : Value) : Value :=
  if value.isDict then value else .dict [("value", value)]

def setOptimizer (entry : String × Value) : RunM Unit := do
  writeField .optimizerState
    (← lift (setItem (← readField .optimizerState) entry.1 (optimizerEntry entry.2)))

/-- Merge per-optimizer values and mirror the result. -/
def mergeOptimizerState (entries : Dict) : RunM Unit := do
  each setOptimizer entries
  let optimizers ← readField .optimizerState
  writeField .componentState
    (← lift (setItem (← readField .componentState) "optimizers" optimizers))

/-- Update one of the memory dictionaries and mirror it under `key`. -/
def mergeMemory (field : Field) (key : String) (entries : Dict) : RunM Unit := do
  writeField field (← lift (dictUpdate (← readField field) entries))
  setInBucket "memory" key (← readField field)

/-- Assign an attribute of the record in `field`, if it has it. -/
def assignAttr (env : KernelEnv) (field : Field) (convert : Value → Except PyError Value)
    (entry : String × Value) : RunM Unit := do
  let record ← readField field
  if hasattr env.toEnv record entry.1 then do
    let x ← lift (convert entry.2)
    writeField field (← lift (setattr env.toEnv record entry.1 x))

def assignAttrs (env : KernelEnv) (field : Field) (convert : Value → Except PyError Value)
    (entries : Dict) : RunM Unit := each (assignAttr env field convert) entries

/-- The messages of a list, or `None` when there are none. -/
def messagesOrNone (value : Value) : Value :=
  match deepcopyMessages value.items with
  | [] => .none
  | messages => .list messages

def applyKnownUpdate (env : KernelEnv) (k : UpdateKey) (value : Value) : RunM Unit :=
  match k with
  | .iteration => do
    let n ← lift value.toInt
    writeField .iteration (.int n)
  | .transcript => writeField .transcript (.list (deepcopyMessages value.items))
  | .transcriptAppend => do
    let transcript ← readField .transcript
    writeField .transcript (← lift (listExtend transcript (deepcopyMessages value.items)))
  | .artifacts => writeField .artifacts (.list value.items)
  | .workspaceChangeState => do
    writeField .workspaceChangeState (.dict value.entries)
    setInBucket "workspace_changes" "state" (.dict value.entries)
  | .optimizerState => mergeOptimizerState value.entries
  | .subagentState => do
    let current ← readField .subagentState
    let new ← lift (SubagentState.updated env.toEnv env.runBundleFromDict current value)
    writeField .subagentState new
    setInBucket "subagents" "state" (← lift (callCopy env.toEnv new))
  | .memoryState => mergeMemory .memoryState "state" value.entries
  | .memoryPrepareInfo => mergeMemory .memoryPrepareInfo "prepare_info" value.entries
  | .memoryCommitInfo => mergeMemory .memoryCommitInfo "commit_info" value.entries
  | .pendingToolCalls => writeField .pendingToolCalls (.list value.items)
  | .lastModelTurn => writeField .lastModelTurn value
  | .toolBatchState => do
    let current ← readField .toolBatchState
    let new ← lift (ToolBatchState.updated env.toEnv current value)
    writeField .toolBatchState new
    setInBucket "tools" "tool_batch_state" (← lift (callCopy env.toEnv new))
  | .runStatus => writeField .runStatus (.str ((value.or (.str "idle")).toStr env.display))
  | .lastContinuation => writeField .lastContinuation (if value.isDict then value else .none)
  | .nextModelInput => writeField .nextModelInput (messagesOrNone value)
  | .remoteContinuationInput => writeField .remoteContinuationInput (messagesOrNone value)
  | .providerState => assignAttrs env .providerState .ok value.entries
  | .providerReplayFrame => do
    let validated ← lift (validateProviderReplayFrame value)
    setInBucket "provider_replay" "frame" validated
  | .providerReplayAppend => do
    match ← lift (currentProviderReplayFrame (← readField .componentState)) with
    | none => pure ()
    | some frame => do
      let copied ← lift (strictJsonCopy value)
      let validated ← lift (validateProviderReplayFrame
        (frame.setKey "items" (.list ((frame.get "items").items ++ copied.items))))
      setInBucket "provider_replay" "frame" validated
  | .tokenState => assignAttrs env .tokenState (fun v => v.toInt.map .int) value.entries
  | .sessionState => assignAttrs env .sessionState .ok value.entries
  | .suspendState => assignAttrs env .suspendState .ok value.entries

/-- One iteration of `_apply_state_updates`. -/
def applyStateUpdate (env : KernelEnv) (entry : String × Value) : RunM Unit :=
  match UpdateKey.ofString? entry.1 with
  | some k =>
    if k.accepts entry.2 then applyKnownUpdate env k entry.2 else setMetadata entry.1 entry.2
  | none => setMetadata entry.1 entry.2

def applyStateUpdates (env : KernelEnv) (updates : Dict) : RunM Unit := do
  callMethod "_apply_state_updates"
  each (applyStateUpdate env) updates

def suspendWith (env : KernelEnv) (kind : Value) (payload : Value) : RunM Unit := do
  writeField .suspendState
    (← lift (setattr env.toEnv (← readField .suspendState) "signal_kind" kind))
  writeField .suspendState
    (← lift (setattr env.toEnv (← readField .suspendState) "payload" payload))

def applyRest (env : KernelEnv) (delta : HarnessDelta) : RunM Unit := do
  applyStateUpdates env delta.stateUpdates
  match delta.suspend with
  | none => pure ()
  | some signal => suspendWith env (.str signal.kind) (.dict signal.payload)

/-- `RunState.apply_delta`. -/
def applyDelta (env : KernelEnv) (delta : HarnessDelta) (generated : VersionId) : RunM Value := do
  callMethod "apply_delta"
  let versionId ← applyMessages env delta generated
  applyRest env delta
  return versionId

/-! ### Frames: what an update can write -/

def SameExcept (fs : List Field) (s s' : RunState) : Prop :=
  s'.versions = s.versions ∧ s'.overrides = s.overrides ∧ ∀ f, f ∉ fs → s'.field f = s.field f

theorem SameExcept.refl (fs : List Field) (s : RunState) : SameExcept fs s s :=
  ⟨rfl, rfl, fun _ _ => rfl⟩

theorem SameExcept.trans {fs : List Field} (s t u : RunState) (h : SameExcept fs s t)
    (h' : SameExcept fs t u) : SameExcept fs s u :=
  ⟨h'.1.trans h.1, h'.2.1.trans h.2.1, fun f out => (h'.2.2 f out).trans (h.2.2 f out)⟩

theorem SameExcept.eq_of_nil {s s' : RunState} (h : SameExcept [] s s') : s' = s := by
  obtain ⟨versions, overrides, fields⟩ := h
  cases s
  cases s'
  simp only [RunState.mk.injEq]
  exact ⟨versions, funext fun f => fields f (by simp), overrides⟩

/-- The computation writes at most the listed fields. -/
abbrev Frame {α : Type} (fs : List Field) (m : RunM α) : Prop := Within (SameExcept fs) m

namespace Frame

variable {α β : Type} {fs : List Field}

theorem ret (a : α) : Frame fs (pure a) := within_pure (SameExcept.refl fs) a

theorem raise (e : PyError) : Frame fs (throw e : RunM α) := within_throw (SameExcept.refl fs) e

theorem lifted (x : Except PyError α) : Frame fs (lift x : RunM α) :=
  within_lift (SameExcept.refl fs) x

theorem seq {m : RunM α} {k : α → RunM β} (first : Frame fs m) (next : ∀ a, Frame fs (k a)) :
    Frame fs (m >>= k) := Within.bind SameExcept.trans first next

theorem state : Frame fs (get : RunM RunState) := fun s => SameExcept.refl fs s

theorem read (f : Field) : Frame fs (readField f) := fun s => SameExcept.refl fs s

theorem write {f : Field} (mem : f ∈ fs) (v : Value) : Frame fs (writeField f v) := by
  intro s
  refine ⟨rfl, rfl, fun g out => ?_⟩
  have ne : g ≠ f := by
    rintro rfl
    exact out mem
  exact RunState.write_field_of_ne ne v

theorem call (name : String) : Frame fs (callMethod name) := by
  intro s
  unfold callMethod
  rw [bind_of_ok (get_run s)]
  split
  · exact SameExcept.refl fs s
  · exact SameExcept.refl fs s

theorem loop {γ : Type} {body : γ → RunM Unit} (xs : List γ) (h : ∀ x ∈ xs, Frame fs (body x)) :
    Frame fs (each body xs) := within_each (SameExcept.refl fs) SameExcept.trans xs h

theorem bucket (mem : Field.componentState ∈ fs) (name : String) (f : Dict → Dict) :
    Frame fs (updateBucket name f) := by
  refine (call _).seq fun _ => (read _).seq fun cs => ?_
  split
  · exact write mem _
  · exact raise _

theorem inBucket (mem : Field.componentState ∈ fs) (name key : String) (v : Value) :
    Frame fs (setInBucket name key v) := bucket mem name _

theorem metadata (mem : Field.metadata ∈ fs) (key : String) (value : Value) :
    Frame fs (setMetadata key value) :=
  (read _).seq fun _ => (lifted _).seq fun _ => write mem _

theorem optimizers (hf : Field.optimizerState ∈ fs) (hc : Field.componentState ∈ fs)
    (entries : Dict) : Frame fs (mergeOptimizerState entries) := by
  have body : ∀ entry ∈ entries, Frame fs (setOptimizer entry) :=
    fun entry _ => (read _).seq fun _ => (lifted _).seq fun _ => write hf _
  exact (loop entries body).seq fun _ => (read _).seq fun _ => (read _).seq fun _ =>
    (lifted _).seq fun _ => write hc _

theorem memory {field : Field} (hf : field ∈ fs) (hc : Field.componentState ∈ fs) (key : String)
    (entries : Dict) : Frame fs (mergeMemory field key entries) :=
  (read _).seq fun _ => (lifted _).seq fun _ => (write hf _).seq fun _ => (read _).seq fun _ =>
    inBucket hc _ _ _

theorem attrs (env : KernelEnv) {field : Field} (hf : field ∈ fs)
    (convert : Value → Except PyError Value) (entries : Dict) :
    Frame fs (assignAttrs env field convert entries) := by
  refine loop entries fun entry _ => ?_
  refine (read _).seq fun record => ?_
  split
  · exact (lifted _).seq fun _ => (lifted _).seq fun _ => write hf _
  · exact ret ()

theorem getMessages (env : KernelEnv) (id : Value) : Frame fs (versionsGetMessages env id) := by
  refine state.seq fun s => ?_
  cases s.versions with
  | graph g => exact (lifted _).seq fun _ => lifted _
  | patched attrs => exact lifted _
  | data v => exact raise _

theorem view (env : KernelEnv) (id : Value) : Frame fs (viewMessages env id) := by
  refine (call _).seq fun _ => (read _).seq fun latest => ?_
  by_cases none : (id.or latest).isNone = true
  · simp only [none, if_true]
    exact ret _
  · simp only [none]
    exact getMessages env _

end Frame

def UpdateKey.writes : UpdateKey → List Field
  | .iteration => [.iteration]
  | .transcript => [.transcript]
  | .transcriptAppend => [.transcript]
  | .artifacts => [.artifacts]
  | .workspaceChangeState => [.workspaceChangeState, .componentState]
  | .optimizerState => [.optimizerState, .componentState]
  | .subagentState => [.subagentState, .componentState]
  | .memoryState => [.memoryState, .componentState]
  | .memoryPrepareInfo => [.memoryPrepareInfo, .componentState]
  | .memoryCommitInfo => [.memoryCommitInfo, .componentState]
  | .pendingToolCalls => [.pendingToolCalls]
  | .lastModelTurn => [.lastModelTurn]
  | .toolBatchState => [.toolBatchState, .componentState]
  | .runStatus => [.runStatus]
  | .lastContinuation => [.lastContinuation]
  | .nextModelInput => [.nextModelInput]
  | .remoteContinuationInput => [.remoteContinuationInput]
  | .providerState => [.providerState]
  | .providerReplayFrame => [.componentState]
  | .providerReplayAppend => [.componentState]
  | .tokenState => [.tokenState]
  | .sessionState => [.sessionState]
  | .suspendState => [.suspendState]

theorem applyKnownUpdate_within (env : KernelEnv) (k : UpdateKey) (value : Value) :
    Frame k.writes (applyKnownUpdate env k value) := by
  cases k with
  | iteration => exact (Frame.lifted _).seq fun _ => Frame.write (by decide) _
  | transcript | artifacts | pendingToolCalls | lastModelTurn | runStatus | lastContinuation
  | nextModelInput | remoteContinuationInput => exact Frame.write (by decide) _
  | transcriptAppend =>
    exact (Frame.read _).seq fun _ => (Frame.lifted _).seq fun _ => Frame.write (by decide) _
  | workspaceChangeState =>
    exact (Frame.write (by simp [UpdateKey.writes]) _).seq fun _ =>
      Frame.inBucket (by decide) _ _ _
  | optimizerState => exact Frame.optimizers (by decide) (by decide) _
  | subagentState | toolBatchState =>
    exact (Frame.read _).seq fun _ => (Frame.lifted _).seq fun _ =>
      (Frame.write (by simp [UpdateKey.writes]) _).seq fun _ => (Frame.lifted _).seq fun _ =>
        Frame.inBucket (by decide) _ _ _
  | memoryState | memoryPrepareInfo | memoryCommitInfo =>
    exact Frame.memory (by decide) (by decide) _ _
  | providerState | sessionState | suspendState => exact Frame.attrs env (by decide) _ _
  | providerReplayFrame => exact (Frame.lifted _).seq fun _ => Frame.inBucket (by decide) _ _ _
  | providerReplayAppend =>
    refine (Frame.read _).seq fun _ => (Frame.lifted _).seq fun frame => ?_
    cases frame with
    | none => exact Frame.ret ()
    | some frame =>
      exact (Frame.lifted _).seq fun _ => (Frame.lifted _).seq fun _ =>
        Frame.inBucket (by decide) _ _ _
  | tokenState =>
    exact Frame.attrs env (List.mem_singleton_self _) (fun v => v.toInt.map .int) value.entries

def updateWrites (key : String) : List Field :=
  .metadata :: ((UpdateKey.ofString? key).map UpdateKey.writes).getD []

theorem applyStateUpdate_within (env : KernelEnv) (entry : String × Value) :
    Frame (updateWrites entry.1) (applyStateUpdate env entry) := by
  unfold applyStateUpdate updateWrites
  cases UpdateKey.ofString? entry.1 with
  | none => exact Frame.metadata (by simp) _ _
  | some k =>
    simp only
    split
    · refine (applyKnownUpdate_within env k entry.2).mono fun s s' same => ?_
      exact ⟨same.1, same.2.1, fun f out => same.2.2 f fun mem => out (by simp [mem])⟩
    · exact Frame.metadata (by simp) _ _

theorem suspendWith_within (env : KernelEnv) (kind payload : Value) :
    Frame [.suspendState] (suspendWith env kind payload) :=
  (Frame.read _).seq fun _ => (Frame.lifted _).seq fun _ => (Frame.write (by simp) _).seq fun _ =>
    (Frame.read _).seq fun _ => (Frame.lifted _).seq fun _ => Frame.write (by simp) _

end Unchain.Kernel
