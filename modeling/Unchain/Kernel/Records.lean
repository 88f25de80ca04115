import Unchain.Python.Object
import Unchain.Lib.Effect

/-!
The two records of the run state that are copied and merged by methods of their
own: `ToolBatchState` (`tools/types.py`) and `SubagentState`
(`subagents/types.py`).

A record in the run state is a dynamic value. `copy` reads it into the typed
structure, converting what it converts, and writes it back; so what came out of a
copy or an update is its own copy (`IsRecord.copy`, `isRecord_updated`).
-/

namespace Unchain.Kernel

open Python Lib Lib.Effect

/-- `_deepcopy_messages` on a value that need not be a list. -/
def deepcopyMessagesOf (value : Value) : Except PyError (List Value) :=
  (iterate (value.or (.list []))).map fun xs => xs.filter Value.isDict

/-! ### Tool batches -/

structure ToolBatchState where
  resultMessages : Value
  shouldObserve : Bool
  awaitingHumanInput : Bool
  humanInputRequest : Value
  humanInputToolCallId : Value
  executedCallIds : List Value

namespace ToolBatchState

def empty : ToolBatchState where
  resultMessages := .list []
  shouldObserve := false
  awaitingHumanInput := false
  humanInputRequest := .none
  humanInputToolCallId := .none
  executedCallIds := []

def toValue (t : ToolBatchState) : Value :=
  .obj .toolBatchState
    [("result_messages", t.resultMessages), ("should_observe", .bool t.shouldObserve),
      ("awaiting_human_input", .bool t.awaitingHumanInput),
      ("human_input_request", t.humanInputRequest),
      ("human_input_tool_call_id", t.humanInputToolCallId),
      ("executed_call_ids", .list t.executedCallIds)]

/-- `ToolBatchState.copy`, read into the structure. -/
def copied (value : Value) : Except PyError ToolBatchState := do
  return {
    resultMessages := ← getattr value "result_messages"
    shouldObserve := (← getattr value "should_observe").truthy
    awaitingHumanInput := (← getattr value "awaiting_human_input").truthy
    humanInputRequest := ← getattr value "human_input_request"
    humanInputToolCallId := ← getattr value "human_input_tool_call_id"
    executedCallIds := ← iterate (← getattr value "executed_call_ids") }

theorem copied_toValue (t : ToolBatchState) : copied t.toValue = .ok t := by
  cases t
  rfl

end ToolBatchState

/-! ### Subagents -/

/-- What a merge reads off a parsed run bundle. -/
structure RunBundleView where
  bundleId : String
  identity : Value
  revision : Int
  bundleDigest : Value
  wire : Value

/-- `run_bundle_from_dict`. -/
abbrev RunBundleReader := Value → Except PyError RunBundleView

structure SubagentState where
  rootAgentId : Value
  activeAgentId : Value
  activeLineage : List Value
  handoffStack : Value
  lineageCounters : Dict
  runningBatches : Value
  threads : Value
  mailboxes : Value
  blackboards : Value
  returnHandoffStack : Value
  blockedClarifications : Value
  runBundles : Value
  spawnStats : Dict

namespace SubagentState

def spawnModes : List String := ["delegate", "handoff", "worker"]

def empty : SubagentState where
  rootAgentId := .str ""
  activeAgentId := .str ""
  activeLineage := []
  handoffStack := .list []
  lineageCounters := []
  runningBatches := .dict []
  threads := .dict []
  mailboxes := .dict []
  blackboards := .dict []
  returnHandoffStack := .list []
  blockedClarifications := .list []
  runBundles := .dict []
  spawnStats := spawnModes.map fun mode => (mode, .int 0)

def toValue (t : SubagentState) : Value :=
  .obj .subagentState
    [("root_agent_id", t.rootAgentId), ("active_agent_id", t.activeAgentId),
      ("active_lineage", .list t.activeLineage), ("handoff_stack", t.handoffStack),
      ("lineage_counters", .dict t.lineageCounters), ("running_batches", t.runningBatches),
      ("threads", t.threads), ("mailboxes", t.mailboxes), ("blackboards", t.blackboards),
      ("return_handoff_stack", t.returnHandoffStack),
      ("blocked_clarifications", t.blockedClarifications), ("run_bundles", t.runBundles),
      ("spawn_stats", .dict t.spawnStats)]

/-- `SubagentState.copy`, read into the structure. -/
def copied (env : Env) (value : Value) : Except PyError SubagentState := do
  return {
    rootAgentId := ← getattr value "root_agent_id"
    activeAgentId := ← getattr value "active_agent_id"
    activeLineage := ← iterate (← getattr value "active_lineage")
    handoffStack := ← getattr value "handoff_stack"
    lineageCounters := ← toDict env (← getattr value "lineage_counters")
    runningBatches := ← getattr value "running_batches"
    threads := ← getattr value "threads"
    mailboxes := ← getattr value "mailboxes"
    blackboards := ← getattr value "blackboards"
    returnHandoffStack := ← getattr value "return_handoff_stack"
    blockedClarifications := ← getattr value "blocked_clarifications"
    runBundles := ← getattr value "run_bundles"
    spawnStats := ← toDict env (← getattr value "spawn_stats") }

theorem copied_toValue (env : Env) (t : SubagentState) : copied env t.toValue = .ok t := by
  cases t
  rfl

end SubagentState

/-- The method call `value.copy()`. An instance attribute of that name hides the
method; dictionaries and lists have one of their own. -/
def callCopy (env : Env) (value : Value) : Except PyError Value :=
  match value with
  | .dict es => .ok (.dict es)
  | .list xs => .ok (.list xs)
  | .obj cls attrs =>
    if Assoc.has "copy" attrs then .error (.typeError "object is not callable")
    else match cls with
      | .toolBatchState => (ToolBatchState.copied value).map ToolBatchState.toValue
      | .subagentState => (SubagentState.copied env value).map SubagentState.toValue
      | .other _ => env.copyOf value
      | _ => .error (.attributeError "object has no attribute 'copy'")
  | _ => .error (.attributeError "object has no attribute 'copy'")

/-- Assign the attribute when the dictionary form of an update has its key. -/
def patchAttr (env : Env) (update : Value) (name : String)
    (convert : Value → Except PyError Value) (record : Value) : Except PyError Value :=
  if update.hasKey name then do
    setattr env record name (← convert (update.get name))
  else .ok record

/-- The new record an update of `tool_batch_state` computes. -/
def ToolBatchState.updated (env : Env) (current value : Value) : Except PyError Value :=
  if value.isClass .toolBatchState then callCopy env value
  else if value.isDict then do
    let toBool := fun v : Value => Except.ok (.bool v.truthy)
    let record ← callCopy env current
    let record ← patchAttr env value "result_messages"
      (fun v => (deepcopyMessagesOf v).map .list) record
    let record ← patchAttr env value "should_observe" toBool record
    let record ← patchAttr env value "awaiting_human_input" toBool record
    let record ← patchAttr env value "human_input_request" .ok record
    let record ← patchAttr env value "human_input_tool_call_id" .ok record
    patchAttr env value "executed_call_ids"
      (fun v => (iterate (v.or (.list []))).map fun ids => .list (ids.filter Value.isStr)) record
  else return empty.toValue

namespace SubagentState

/-- The dictionaries of a list value; anything else keeps the default. -/
def dictsOr (value default : Value) : Value :=
  match value with
  | .list xs => .list (xs.filter Value.isDict)
  | _ => default

/-- `{key: [dictionaries of value]}` over the entries whose value is a list. -/
def mailboxesOr (value default : Value) : Value :=
  match value with
  | .dict es => .dict ((es.filter fun entry => entry.2.isList).map fun entry =>
    (entry.1, .list (entry.2.items.filter Value.isDict)))
  | _ => default

/-- The bundles of the raw dictionary, each read and stored under its own id. -/
def readBundles (reader : RunBundleReader) : Dict → Dict → Except PyError Dict
  | [], bundles => .ok bundles
  | (key, value) :: rest, bundles =>
    if value.isDict then do
      let bundle ← reader value
      if key ≠ bundle.bundleId then
        throw (.valueError "subagent run bundle key does not match bundle_id")
      readBundles reader rest (Assoc.set key bundle.wire bundles)
    else readBundles reader rest bundles

/-- `int(value)` of an integer or boolean. -/
def intValue (value : Value) : Value :=
  match value.toInt with
  | .ok n => .int n
  | .error _ => value

variable (env : Env) (reader : RunBundleReader)

/-- `SubagentState.from_raw`. -/
def fromRaw (raw : Value) : Except PyError SubagentState :=
  if raw.isClass .subagentState then do copied env (← callCopy env raw)
  else match raw with
    | .dict es => do
      let raw := Value.dict es
      let bundles ← match raw.get "run_bundles" with
        | .dict bundles => readBundles reader bundles []
        | _ => pure []
      return {
        rootAgentId := .str (((raw.get "root_agent_id").or (.str "")).toStr env.display)
        activeAgentId := .str (((raw.get "active_agent_id").or (.str "")).toStr env.display)
        activeLineage := ((raw.get "active_lineage").items.filter Value.isStr)
        handoffStack := dictsOr (raw.get "handoff_stack") (.list [])
        lineageCounters := ((raw.get "lineage_counters").entries.filter
          fun entry => entry.2.isInt).map fun entry => (entry.1, intValue entry.2)
        runningBatches := .dict (raw.get "running_batches").entries
        threads := .dict ((raw.get "threads").entries.filter fun entry => entry.2.isDict)
        mailboxes := mailboxesOr (raw.get "mailboxes") (.dict [])
        blackboards := mailboxesOr (raw.get "blackboards") (.dict [])
        returnHandoffStack := dictsOr (raw.get "return_handoff_stack") (.list [])
        blockedClarifications := dictsOr (raw.get "blocked_clarifications") (.list [])
        runBundles := .dict bundles
        spawnStats := spawnModes.map fun mode =>
          let stat := (raw.get "spawn_stats").get mode
          (mode, if stat.isInt then intValue stat else .int 0) }
    | _ => .ok empty

/-- The incoming bundle against the recorded one: identity is immutable, an older
revision is ignored, and one revision has one digest. -/
def mergeBundle (reader : RunBundleReader) (current : Dict) (bundleId : String) (bundle : Value) :
    Except PyError Dict :=
  match Assoc.get bundleId current with
  | none => .ok (Assoc.set bundleId bundle current)
  | some .none => .ok (Assoc.set bundleId bundle current)
  | some prior => do
    let priorBundle ← reader prior
    let incoming ← reader bundle
    if !priorBundle.identity.eqPy incoming.identity then
      throw (.raised "RunBundleProtocolError" "one child bundle_id changed its immutable identity")
    else if incoming.revision < priorBundle.revision then return current
    else if incoming.revision = priorBundle.revision
        ∧ !incoming.bundleDigest.eqPy priorBundle.bundleDigest then
      throw (.raised "RunBundleProtocolError"
        "one child bundle revision has conflicting projections")
    else return Assoc.set bundleId bundle current

def mergeBundles (reader : RunBundleReader) : Dict → Dict → Except PyError Dict
  | current, [] => .ok current
  | current, (bundleId, bundle) :: rest => do
    mergeBundles reader (← mergeBundle reader current bundleId bundle) rest

/-- `current.setdefault(key, []).extend(value)` over the entries of `update`. -/
def extendBoxes : Dict → Dict → Except PyError Dict
  | current, [] => .ok current
  | current, (key, value) :: rest => do
    let box := (Assoc.get key current).getD (.list [])
    let items ← iterate value
    extendBoxes (Assoc.set key (← listExtend box items) current) rest

/-- The entries of a dictionary; iterating anything else with `items()` raises. -/
def dictItems (value : Value) : Except PyError Dict :=
  match value with
  | .dict es => .ok es
  | _ => .error (.attributeError "no attribute 'items'")

/-- Fold the update's items into a dictionary attribute, when it has any. -/
def mergeItems (current update : Value) (f : Dict → Dict → Except PyError Dict) :
    Except PyError Value :=
  if update.truthy then do
    let new ← dictItems update
    let old ← dictItems current
    return .dict (← f old new)
  else return current

/-- Update a dictionary attribute when the update's one is not empty. -/
def mergeDict (env : Env) (current update : Value) : Except PyError Value :=
  if update.truthy then do dictUpdate current (← toDict env update) else return current

def mergeList (current update : Value) : Except PyError Value :=
  if update.truthy then do listExtend current (← iterate update) else return current

/-- The raw spawn statistics a merge takes over. -/
def rawSpawnStats (raw : Value) : Dict :=
  match raw with
  | .dict _ => (raw.get "spawn_stats").entries
  | .obj .subagentState attrs =>
    let stats := (Assoc.get "spawn_stats" attrs).getD .none
    if stats.eqPy (.dict empty.spawnStats) then [] else stats.entries
  | _ => []

/-- `SubagentState.merged`. -/
def merged (value raw : Value) : Except PyError SubagentState := do
  let update ← fromRaw env reader raw
  let current ← copied env (← callCopy env value)
  let runningBatches ← mergeDict env current.runningBatches update.runningBatches
  let blocked ← mergeList current.blockedClarifications update.blockedClarifications
  let bundles ← mergeItems current.runBundles update.runBundles (mergeBundles reader)
  let threads ← mergeDict env current.threads update.threads
  let mailboxes ← mergeItems current.mailboxes update.mailboxes extendBoxes
  let blackboards ← mergeItems current.blackboards update.blackboards extendBoxes
  let returnStack ← mergeList current.returnHandoffStack update.returnHandoffStack
  return {
    rootAgentId := update.rootAgentId.or current.rootAgentId
    activeAgentId := update.activeAgentId.or current.activeAgentId
    activeLineage := if update.activeLineage = [] then current.activeLineage
      else update.activeLineage
    handoffStack := update.handoffStack.or current.handoffStack
    lineageCounters := Assoc.update current.lineageCounters update.lineageCounters
    runningBatches := runningBatches
    threads := threads
    mailboxes := mailboxes
    blackboards := blackboards
    returnHandoffStack := returnStack
    blockedClarifications := blocked
    runBundles := bundles
    spawnStats := ((rawSpawnStats raw).filter fun entry =>
        spawnModes.contains entry.1 && entry.2.isInt).foldl
      (fun stats entry => Assoc.set entry.1 (intValue entry.2) stats) current.spawnStats }

/-- The method call `value.merged(raw)`. -/
def callMerged (value raw : Value) : Except PyError Value :=
  match value with
  | .obj .subagentState attrs =>
    if Assoc.has "merged" attrs then .error (.typeError "object is not callable")
    else (merged env reader value raw).map toValue
  | _ => .error (.attributeError "object has no attribute 'merged'")

/-- The new record an update of `subagent_state` computes. -/
def updated (current value : Value) : Except PyError Value :=
  if value.isClass .subagentState then callCopy env value
  else callMerged env reader current value

end SubagentState

/-! ### Updates are their own copies -/

namespace ToolBatchState

/-- A record as `ToolBatchState.copy` builds it. -/
def IsRecord (value : Value) : Prop := ∃ t : ToolBatchState, value = t.toValue

theorem IsRecord.copy {value : Value} (h : IsRecord value) (env : Env) :
    callCopy env value = .ok value := by
  obtain ⟨t, rfl⟩ := h
  have read : (copied t.toValue).map toValue = .ok t.toValue := by
    simp [copied_toValue, Except.map]
  exact read

theorem IsRecord.isClass {value : Value} (h : IsRecord value) :
    value.isClass .toolBatchState = true := by
  obtain ⟨t, rfl⟩ := h
  simp [toValue, Value.isClass]

theorem isRecord_of_copy {env : Env} {value copy : Value}
    (cls : value.isClass .toolBatchState = true) (h : callCopy env value = .ok copy) :
    IsRecord copy := by
  cases value with
  | obj c attrs =>
    have same : c = .toolBatchState := by simpa [Value.isClass] using cls
    subst same
    simp only [callCopy] at h
    split at h
    · cases h
    · obtain ⟨t, -, rfl⟩ := map_ok h
      exact ⟨t, rfl⟩
  | _ => simp [Value.isClass] at cls

theorem IsRecord.patch {env : Env} {update record new : Value} {name : String}
    {convert : Value → Except PyError Value} (h : IsRecord record)
    (fits : ∀ t : ToolBatchState, ∀ v x, convert v = .ok x →
      ∃ t' : ToolBatchState, setattr env t.toValue name x = .ok t'.toValue)
    (patched : patchAttr env update name convert record = .ok new) : IsRecord new := by
  obtain ⟨t, rfl⟩ := h
  unfold patchAttr at patched
  split at patched
  · obtain ⟨x, converted, assigned⟩ := bind_ok patched
    obtain ⟨t', same⟩ := fits t _ x converted
    rw [same] at assigned
    exact ⟨t', by simpa using assigned.symm⟩
  · cases patched
    exact ⟨t, rfl⟩

theorem isRecord_updated {env : Env} {current value new : Value}
    (h : current.isClass .toolBatchState = true)
    (computed : updated env current value = .ok new) : IsRecord new := by
  unfold updated at computed
  split at computed
  · rename_i isRecord
    exact isRecord_of_copy isRecord computed
  · split at computed
    · obtain ⟨r0, copied, computed⟩ := bind_ok computed
      obtain ⟨r1, messages, computed⟩ := bind_ok computed
      obtain ⟨r2, observe, computed⟩ := bind_ok computed
      obtain ⟨r3, awaiting, computed⟩ := bind_ok computed
      obtain ⟨r4, request, computed⟩ := bind_ok computed
      obtain ⟨r5, callId, ids⟩ := bind_ok computed
      have start : IsRecord r0 := isRecord_of_copy h copied
      have step1 := start.patch (fun t _ x _ => ⟨{ t with resultMessages := x }, rfl⟩) messages
      have step2 := step1.patch (fun t v x converted => by
        cases converted
        exact ⟨{ t with shouldObserve := v.truthy }, rfl⟩) observe
      have step3 := step2.patch (fun t v x converted => by
        cases converted
        exact ⟨{ t with awaitingHumanInput := v.truthy }, rfl⟩) awaiting
      have step4 := step3.patch (fun t _ x _ => ⟨{ t with humanInputRequest := x }, rfl⟩) request
      have step5 := step4.patch (fun t _ x _ => ⟨{ t with humanInputToolCallId := x }, rfl⟩) callId
      exact step5.patch (fun t _ x converted => by
        obtain ⟨items, -, rfl⟩ := map_ok converted
        exact ⟨{ t with executedCallIds := items.filter Value.isStr }, rfl⟩) ids
    · cases computed
      exact ⟨empty, rfl⟩

end ToolBatchState

namespace SubagentState

/-- A record as `SubagentState.copy` builds it. -/
def IsRecord (value : Value) : Prop := ∃ t : SubagentState, value = t.toValue

theorem IsRecord.copy {value : Value} (h : IsRecord value) (env : Env) :
    callCopy env value = .ok value := by
  obtain ⟨t, rfl⟩ := h
  have read : (copied env t.toValue).map toValue = .ok t.toValue := by
    simp [copied_toValue, Except.map]
  exact read

theorem isRecord_updated {env : Env} {reader : RunBundleReader} {current value new : Value}
    (computed : updated env reader current value = .ok new) : IsRecord new := by
  unfold updated at computed
  split at computed
  · rename_i isRecord
    cases value with
    | obj cls attrs =>
      have same : cls = .subagentState := by simpa [Value.isClass] using isRecord
      subst same
      simp only [callCopy] at computed
      split at computed
      · cases computed
      · obtain ⟨t, -, rfl⟩ := map_ok computed
        exact ⟨t, rfl⟩
    | _ => simp [Value.isClass] at isRecord
  · unfold callMerged at computed
    split at computed
    · split at computed
      · cases computed
      · obtain ⟨t, -, rfl⟩ := map_ok computed
        exact ⟨t, rfl⟩
    · cases computed

end SubagentState

end Unchain.Kernel
