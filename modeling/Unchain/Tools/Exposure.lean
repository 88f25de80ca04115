import Unchain.Memory.Revision
import Mathlib.Data.Prod.Lex

/-!
Tool exposure (`tools/exposure.py`).

A runtime shows the provider a part of its toolkit. `prepare` asks a selector which tools that part
begins with, `tool_load` adds to it, and `durable_plan_snapshot` writes down what a later runtime
over the same toolkit replays.
-/

namespace Unchain.Tools

open Lib Lib.Effect Python Interaction

/-! ### Tools -/

structure ToolPromptSpec where
  purpose : String
  whenToUse : List String
  whenNotToUse : List String
  examples : List String
  advancedTips : List String

/-- What the exposure of a tool reads of it. -/
structure Tool where
  name : String
  description : String
  alwaysLoad : Bool
  deferByDefault : Bool
  searchHint : String
  toolkitId : String
  server : String
  category : String
  promptSpec : Option ToolPromptSpec
  /-- `to_provider_json`. -/
  providerSchema : String → Value

/-- A toolkit, in the order of its registrations; `register` keys a tool by its name. -/
structure Toolkit where
  tools : List Tool
  distinct : (tools.map Tool.name).Nodup

namespace Toolkit

def names (t : Toolkit) : List String := t.tools.map Tool.name

def empty : Toolkit := ⟨[], by simp⟩

def get (t : Toolkit) (name : String) : Option Tool := t.tools.find? fun tool => tool.name == name

/-- `register`: a tool of the same name is replaced where it stands. -/
def register (t : Toolkit) (tool : Tool) : Toolkit where
  tools :=
    if tool.name ∈ t.names then t.tools.map fun other => if other.name = tool.name then tool else other
    else t.tools ++ [tool]
  distinct := by
    split
    · have same : (t.tools.map fun other => if other.name = tool.name then tool else other).map
          Tool.name = t.tools.map Tool.name := by
        rw [List.map_map]
        refine List.map_congr_left fun other _ => ?_
        by_cases h : other.name = tool.name <;> simp [h]
      rw [same]
      exact t.distinct
    · next fresh =>
      rw [List.map_append, List.nodup_append]
      refine ⟨t.distinct, by simp, ?_⟩
      rintro name mem _ other rfl
      rw [List.map_singleton, List.mem_singleton] at other
      exact fresh (other ▸ mem)

end Toolkit

/-- `META_TOOL_NAMES`. -/
def metaToolNames : List String :=
  ["tool_search", "tool_describe", "tool_load", "tool_execute_deferred"]

/-- `_build_meta_tools`. -/
def metaTools : List Tool :=
  let metaTool (name description : String) : Tool :=
    { name, description, alwaysLoad := true, deferByDefault := false, searchHint := "",
      toolkitId := "", server := "", category := "", promptSpec := none,
      providerSchema := fun _ => .dict [("name", .str name)] }
  [metaTool "tool_search" "Search deferred tools that are not directly exposed this turn.",
    metaTool "tool_describe" "Return full schemas for a small number of deferred tools.",
    metaTool "tool_load"
      "Load deferred tools into the active provider-native tool list for later turns.",
    metaTool "tool_execute_deferred"
      "Execute a deferred tool in the current turn after describing its schema."]

/-! ### Names -/

/-- `_unique_names`, after the names `seen`. -/
def uniqueNamesFrom (seen : List String) : List String → List String
  | [] => []
  | raw :: rest =>
    let name := strip raw
    if name = "" ∨ name ∈ seen then uniqueNamesFrom seen rest
    else name :: uniqueNamesFrom (name :: seen) rest

/-- `_unique_names`. -/
def uniqueNames (raw : List String) : List String := uniqueNamesFrom [] raw

/-- `value or default` of a text. -/
def textOr (text default : String) : String := if text = "" then default else text

/-! ### The runtime -/

/-- `ToolOptimizerConfig`, what the plan reads of it. -/
structure ToolOptimizerConfig where
  maxDirectTools : Nat
  triggerToolCount : Nat
  enabled : Bool
  direct_pos : 1 ≤ maxDirectTools
  trigger_pos : 1 ≤ triggerToolCount

structure ToolExposurePlan where
  directToolNames : List String
  deferredToolNames : List String
  loadedToolNames : List String
  selectorStatus : String
  fallbackReason : String

structure ExposureToolRecord where
  handle : String
  name : String
  description : String
  searchHint : String
  toolkit : String
  server : String
  category : String

/-- `_compact_text`, and the class name of an exception, besides what the interactions use. -/
structure ExposureHost extends InteractionHost where
  compactText : String → String
  errorName : PyError → String

/-- `ToolExposureRuntime`: what it was made of, what its selector answers (the parsed text, or what
asking for it raised) and how many points the fallback gives a tool. -/
structure ToolExposureRuntime where
  config : ToolOptimizerConfig
  fullToolkit : Toolkit
  /-- `full_toolkit.prompt_sections`. -/
  promptSections : List String
  provider : String
  selector : Except PyError Value
  score : String → Int

/-- What the methods of a runtime write. -/
structure Exposure where
  plan : ToolExposurePlan
  exposedToolkit : Toolkit
  recordsByName : List ExposureToolRecord
  loadedNames : List String
  selectorUsed : Bool

section Runtime

variable (host : ExposureHost) (rt : ToolExposureRuntime)

def catalogTools : List Tool := rt.fullToolkit.tools.filter fun tool => tool.name ∉ metaToolNames

def promptSpecManifest (spec : ToolPromptSpec) : Value :=
  let texts (xs : List String) : Value := .list (xs.map .str)
  .dict [("purpose", .str spec.purpose), ("when_to_use", texts spec.whenToUse),
    ("when_not_to_use", texts spec.whenNotToUse), ("examples", texts spec.examples),
    ("advanced_tips", texts spec.advancedTips)]

def toolManifest (tool : Tool) : Value :=
  .dict [("name", .str tool.name), ("provider_schema", tool.providerSchema rt.provider),
    ("always_load", .bool tool.alwaysLoad), ("defer_by_default", .bool tool.deferByDefault),
    ("search_hint", .str tool.searchHint), ("toolkit", .str (textOr tool.toolkitId "runtime")),
    ("server", .str tool.server), ("category", .str (textOr tool.category "local")),
    ("prompt_spec", (tool.promptSpec.map promptSpecManifest).getD .none)]

/-- `_catalog_manifest`. -/
def catalogManifest : Value :=
  .dict [("provider", .str rt.provider),
    ("prompt_sections", .list (rt.promptSections.map .str)),
    ("tools", .list ((catalogTools rt).map (toolManifest rt)))]

/-- `_catalog_digest`. -/
def catalogDigest : Except PyError String := digest host.toInteractionHost (catalogManifest rt)

/-- `_build_records`. -/
def buildRecords : List ExposureToolRecord :=
  (catalogTools rt).map fun tool =>
    { handle := tool.name, name := tool.name
      description := host.compactText tool.description
      searchHint := host.compactText tool.searchHint
      toolkit := textOr tool.toolkitId "runtime"
      server := tool.server
      category := textOr tool.category "local" }

/-- `_always_load_names`. -/
def alwaysLoadNames : List String :=
  (rt.fullToolkit.tools.filter fun tool =>
    decide (tool.name ∉ metaToolNames) && tool.alwaysLoad).map Tool.name

/-! ### The selector -/

def rawSelectorNames (parsed : Value) : List Value :=
  if (parsed.get "tool_names").isList then (parsed.get "tool_names").items
  else if (parsed.get "tools").isList then (parsed.get "tools").items
  else (parsed.get "direct_tool_names").items

def selectorName (item : Value) : String :=
  let raw := if item.isDict then
      ((item.get "name").or (item.get "tool_name")).or (item.get "handle")
    else item
  strip ((raw.or (.str "")).toStr host.display)

/-- `_sanitize_selector_names`. -/
def sanitizeSelectorNames (parsed : Value) : List String :=
  uniqueNames (((rawSelectorNames parsed).map (selectorName host)).filter fun name =>
    decide (name ∈ rt.fullToolkit.names) && decide (name ∉ metaToolNames))

/-- `_fallback_tool_names`: by points, then the tools that are not deferred by default, then by
name. -/
def fallbackToolNames : List String :=
  (sortedBy (fun tool : Tool =>
      toLex (-rt.score tool.name, toLex ((if tool.deferByDefault then 1 else 0 : Nat), tool.name)))
    (catalogTools rt)).map Tool.name

/-- `_select_tool_names`: the names, the status and the reason. -/
def selectToolNames : Except PyError (List String × String × String) :=
  match rt.selector with
  | .error e =>
    if Memory.isExecutionLeaseError e then .error e
    else .ok (fallbackToolNames rt, "fallback",
      "selector_failed: " ++ host.errorName e ++ ": " ++ Memory.errorText e)
  | .ok parsed =>
    let names := sanitizeSelectorNames host rt parsed
    if names = [] then
      .ok (fallbackToolNames rt, "fallback", "selector_returned_no_valid_tools")
    else .ok (names, "selected", "")

/-- The loop of `_resolve_direct_original_names`. -/
def chooseDirect (budget : Nat) : List String → List String → List String
  | direct, [] => direct
  | direct, name :: rest =>
    if name ∈ direct ∨ name ∉ rt.fullToolkit.names ∨ name ∈ metaToolNames then
      chooseDirect budget direct rest
    else if budget ≤ (direct ++ [name]).length then direct ++ [name]
    else chooseDirect budget (direct ++ [name]) rest

/-- `_resolve_direct_original_names`. -/
def resolveDirectOriginalNames (selected : List String) : List String :=
  let always := uniqueNames (alwaysLoadNames rt)
  let budget := rt.config.maxDirectTools - metaToolNames.length
  if budget ≤ always.length then always else chooseDirect rt budget always selected

/-- `_build_exposed_toolkit`. -/
def buildExposedToolkit (direct : List String) : Toolkit :=
  (direct.filterMap rt.fullToolkit.get ++ metaTools).foldl Toolkit.register .empty

/-! ### Plans -/

/-- `durable_plan_snapshot`. -/
def durablePlanSnapshot (e : Exposure) : Except PyError Value := do
  raiseIf (!e.selectorUsed) (integrityError
    "tool exposure plan is unavailable because the selector was not active")
  let digest ← catalogDigest host rt
  let names (xs : List String) : Value := .list (xs.map .str)
  return .dict [("schema_version", .int 1), ("provider", .str rt.provider),
    ("catalog_digest", .str digest),
    ("direct_tool_names", names (e.plan.directToolNames.filter (· ∉ metaToolNames))),
    ("deferred_tool_names", names e.plan.deferredToolNames),
    ("loaded_tool_names", names e.plan.loadedToolNames)]

def isNameText : Value → Bool
  | .str s => strip s != ""
  | _ => false

def nameText : Value → String
  | .str s => strip s
  | _ => ""

/-- `_plan_name_list`. -/
def planNameList (raw : Value) (fieldName : String) : Except PyError (List String) := do
  raiseIf (!raw.isList || !raw.items.all isNameText) (integrityError
    ("tool exposure replay " ++ fieldName ++ " must be a list of non-empty strings"))
  let names := raw.items.map nameText
  raiseIf (!decide names.Nodup) (integrityError
    ("tool exposure replay " ++ fieldName ++ " contains duplicate names"))
  return names

def replayFields : List String :=
  ["schema_version", "provider", "catalog_digest", "direct_tool_names", "deferred_tool_names",
    "loaded_tool_names"]

/-- `set(raw) == expected_fields`, of a dictionary. -/
def hasExactly (raw : Value) (fields : List String) : Bool :=
  raw.isDict && (Assoc.keys raw.entries).all (· ∈ fields) && fields.all raw.hasKey

/-- `direct | deferred == full` and `direct & deferred` is empty. -/
def partitions (direct deferred full : List String) : Bool :=
  direct.all (· ∉ deferred) && (direct ++ deferred).all (· ∈ full)
    && full.all fun name => decide (name ∈ direct ∨ name ∈ deferred)

/-- The checks of `_prepare_replay_plan`: the direct, deferred and loaded names. -/
def readReplayPlan (raw : Value) : Except PyError (List String × List String × List String) := do
  raiseIf (!rt.config.enabled) (integrityError
    "tool exposure replay requires an enabled tool optimizer")
  raiseIf (!hasExactly raw replayFields) (integrityError
    "tool exposure replay plan does not match schema version 1")
  raiseIf (!(raw.get "schema_version").eqPy (.int 1)) (integrityError
    "unsupported tool exposure replay plan schema_version")
  raiseIf (!(raw.get "provider").eqPy (.str rt.provider)) (integrityError
    "tool exposure replay provider does not match the active runtime")
  let mismatch := integrityError
    "tool exposure replay catalog digest does not match the active toolkit"
  raiseIf (!(raw.get "catalog_digest").isStr || !(raw.get "catalog_digest").truthy) mismatch
  let digest ← catalogDigest host rt
  raiseIf (!(raw.get "catalog_digest").eqPy (.str digest)) mismatch
  let direct ← planNameList (raw.get "direct_tool_names") "direct_tool_names"
  let deferred ← planNameList (raw.get "deferred_tool_names") "deferred_tool_names"
  let loaded ← planNameList (raw.get "loaded_tool_names") "loaded_tool_names"
  let full := rt.fullToolkit.names.filter (· ∉ metaToolNames)
  raiseIf (!partitions direct deferred full) (integrityError
    "tool exposure replay direct/deferred names must exactly partition the active toolkit")
  raiseIf (!loaded.all (· ∈ direct)) (integrityError
    "tool exposure replay loaded names must be a subset of direct names")
  return (direct, deferred, loaded)

/-- `_prepare_replay_plan`. -/
def prepareReplayPlan (raw : Value) : Except PyError Exposure := do
  let (direct, deferred, loaded) ← readReplayPlan host rt raw
  return {
    plan :=
      { directToolNames := direct ++ metaToolNames, deferredToolNames := deferred
        loadedToolNames := loaded, selectorStatus := "replayed", fallbackReason := "" }
    exposedToolkit := buildExposedToolkit rt direct
    recordsByName := buildRecords host rt
    loadedNames := loaded
    selectorUsed := true }

def exposeAll (status : String) : Exposure where
  plan :=
    { directToolNames := rt.fullToolkit.names, deferredToolNames := [], loadedToolNames := []
      selectorStatus := status, fallbackReason := "" }
  exposedToolkit := rt.fullToolkit
  recordsByName := []
  loadedNames := []
  selectorUsed := false

/-- The part of `prepare` that asks the selector. -/
def prepareSelected : Except PyError Exposure := do
  let (selected, status, reason) ← selectToolNames host rt
  let direct := resolveDirectOriginalNames rt selected
  return {
    plan :=
      { directToolNames := direct ++ metaToolNames
        deferredToolNames := rt.fullToolkit.names.filter (· ∉ direct)
        loadedToolNames := [], selectorStatus := status, fallbackReason := reason }
    exposedToolkit := buildExposedToolkit rt direct
    recordsByName := buildRecords host rt
    loadedNames := []
    selectorUsed := true }

/-- `prepare`. -/
def prepare (replayPlan : Option Value) : Except PyError Exposure :=
  match replayPlan with
  | some raw => prepareReplayPlan host rt raw
  | none =>
    if !rt.config.enabled then .ok (exposeAll rt "disabled")
    else if rt.fullToolkit.tools.length ≤ rt.config.triggerToolCount then
      .ok (exposeAll rt "skipped_small_tool_pool")
    else prepareSelected host rt

/-! ### Loading -/

/-- An argument of names or handles: the text of each item, `str(item or "")`. -/
inductive NameArgument where
  | absent
  | text (s : String)
  | items (texts : List String)

def NameArgument.values : NameArgument → List String
  | .absent => []
  | .text s => [s]
  | .items texts => texts

/-- `_records_by_name.get(value)`. -/
def Exposure.record (e : Exposure) (value : String) : Option ExposureToolRecord :=
  e.recordsByName.find? fun record => record.name == value

/-- `_resolve_records`. -/
def resolveRecords (e : Exposure) (handles names : NameArgument) :
    List ExposureToolRecord × List (String × String) :=
  let values := uniqueNames (handles.values ++ names.values)
  (values.filterMap e.record,
    (values.filter fun value => (e.record value).isNone).map fun value =>
      (value, "unknown deferred tool handle"))

/-- What `tool_load` returns, and the toolkit and the loaded names on the way. -/
structure Loading where
  exposedToolkit : Toolkit
  loadedNames : List String
  loaded : List ExposureToolRecord
  alreadyLoaded : List ExposureToolRecord
  failed : List (String × String)

/-- One record of the loop of `tool_load`. -/
def loadRecord (l : Loading) (record : ExposureToolRecord) : Loading :=
  match rt.fullToolkit.get record.name with
  | none => { l with failed := l.failed ++ [(record.handle, "tool missing from full toolkit")] }
  | some tool =>
    if record.name ∈ l.exposedToolkit.names then
      { l with alreadyLoaded := l.alreadyLoaded ++ [record] }
    else
      { l with
        exposedToolkit := l.exposedToolkit.register tool
        loadedNames :=
          if record.name ∈ l.loadedNames then l.loadedNames else l.loadedNames ++ [record.name]
        loaded := l.loaded ++ [record] }

/-- `tool_load`: the runtime after it, and what it returns. -/
def toolLoad (e : Exposure) (handles names : NameArgument) : Exposure × Loading :=
  let (records, failed) := resolveRecords e handles names
  let start : Loading := { exposedToolkit := e.exposedToolkit, loadedNames := e.loadedNames,
                           loaded := [], alreadyLoaded := [], failed := failed }
  let l := records.foldl (loadRecord rt) start
  ({ e with
      plan := { e.plan with
        directToolNames := uniqueNames (e.plan.directToolNames ++ l.loadedNames)
        deferredToolNames := e.plan.deferredToolNames.filter (· ∉ l.loadedNames)
        loadedToolNames := l.loadedNames }
      exposedToolkit := l.exposedToolkit
      loadedNames := l.loadedNames }, l)

/-- A sequence of `tool_load` calls. -/
def loadAll (e : Exposure) (calls : List (NameArgument × NameArgument)) : Exposure :=
  calls.foldl (fun e call => (toolLoad rt e call.1 call.2).1) e

end Runtime

end Unchain.Tools
