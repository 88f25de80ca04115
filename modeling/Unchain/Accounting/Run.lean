import Unchain.Accounting.Canonical
import Unchain.Accounting.Timestamps

/-!
The records that say which run a bundle is about: identity, lifecycle, descriptor, children and
legacy attribution.
-/

namespace Unchain.Accounting

open Lib Lib.Effect Python

/-! ### Identity -/

/-- `_RUN_RELATIONS`. -/
inductive RunRelation where
  | root
  | subagent
  | graphNode
  | recipeNode
  | auxiliary
deriving DecidableEq

namespace RunRelation

def name : RunRelation → String
  | root => "root"
  | subagent => "subagent"
  | graphNode => "graph_node"
  | recipeNode => "recipe_node"
  | auxiliary => "auxiliary"

def named (s : String) : Option RunRelation :=
  [root, subagent, graphNode, recipeNode, auxiliary].find? fun x => x.name = s

theorem named_name (x : RunRelation) : named x.name = some x := by
  cases x <;> decide

/-- `_CHILD_RELATIONS`. -/
def childNamed (s : String) : Option RunRelation :=
  [subagent, graphNode, recipeNode, auxiliary].find? fun x => x.name = s

theorem childNamed_ok {s : String} {x : RunRelation} (h : childNamed s = some x) :
    childNamed x.name = some x := by
  have mem := List.mem_of_find?_eq_some h
  simp only [List.mem_cons, List.not_mem_nil, or_false] at mem
  rcases mem with rfl | rfl | rfl | rfl <;> decide

end RunRelation

structure RunIdentity where
  executionId : String
  attemptId : String
  rootRunId : String
  runId : String
  parentRunId : Option String
  relation : RunRelation
deriving DecidableEq

namespace RunIdentity

def toDict (i : RunIdentity) : Value :=
  .dict [("execution_id", .str i.executionId), ("attempt_id", .str i.attemptId),
    ("root_run_id", .str i.rootRunId), ("run_id", .str i.runId),
    ("parent_run_id", optionalValue .str i.parentRunId), ("relation", .str i.relation.name)]

def checkRelation (runId rootRunId : String) (parentRunId : Option String) :
    RunRelation → Except PyError Unit
  | .root =>
    raiseIf (runId ≠ rootRunId || parentRunId.isSome)
      (protocolError "root run identity requires run_id=root_run_id and null parent")
  | _ =>
    raiseIf (runId = rootRunId || parentRunId.isNone)
      (protocolError "child run identity requires a distinct run_id and parent")

variable (host : BundleHost)

def make (arg : Value) : Except PyError RunIdentity := do
  let executionId ← canonicalText host 256 "execution_id" (arg.get "execution_id")
  let attemptId ← canonicalText host 256 "attempt_id" (arg.get "attempt_id")
  let rootRunId ← canonicalText host 256 "root_run_id" (arg.get "root_run_id")
  let runId ← canonicalText host 256 "run_id" (arg.get "run_id")
  let parentRunId ← optionalText host 256 "parent_run_id" (arg.get "parent_run_id")
  let relation ← enumField host RunRelation.named "run relation" (arg.get "relation")
  checkRelation runId rootRunId parentRunId relation
  return ⟨executionId, attemptId, rootRunId, runId, parentRunId, relation⟩

def fields : List String :=
  ["execution_id", "attempt_id", "root_run_id", "run_id", "parent_run_id", "relation"]

def fromDict (v : Value) : Except PyError RunIdentity := do
  let raw ← strictRecord fields "run identity" v
  make host raw

def Constructed (i : RunIdentity) : Prop := ∃ arg, make host arg = .ok i

variable {host}

theorem fromDict_toDict {i : RunIdentity} (made : i.Constructed host) :
    fromDict host i.toDict = .ok i := by
  obtain ⟨arg, h⟩ := made
  simp only [make, bind_iff, pure_iff] at h
  obtain ⟨execution, executionOk, attempt, attemptOk, root, rootOk, run, runOk, parent, parentOk,
    relation, -, _, valid, rfl⟩ := h
  simp only [fromDict, make, bind_iff, pure_iff]
  exact ⟨_, strictRecord_of_keys rfl, execution, canonicalText_again executionOk,
    attempt, canonicalText_again attemptOk, root, canonicalText_again rootOk,
    run, canonicalText_again runOk, parent, optionalText_again parentOk,
    relation, enumField_name RunRelation.named_name _ _, (), valid, rfl⟩

end RunIdentity

/-- `deterministic_bundle_id`. -/
def deterministicBundleId (host : BundleHost) (identity : RunIdentity) : Except PyError String := do
  let digest ← canonicalSha256 host
    (.dict [("domain", .str "unchain.run_bundle_id.v1"), ("identity", identity.toDict)])
  return "rb_" ++ digest

theorem deterministicBundleId_ok {host : BundleHost} {identity : RunIdentity} {id : String}
    (h : deterministicBundleId host identity = .ok id) :
    ∃ digest, isSha256 digest = true ∧ id = "rb_" ++ digest := by
  obtain ⟨digest, hashed, h⟩ := bind_ok h
  cases h
  exact ⟨digest, canonicalSha256_hex hashed, rfl⟩

/-! ### Lifecycle -/

/-- `_RUN_STATUSES`. -/
inductive RunStatus where
  | running
  | completed
  | failed
  | suspended
  | cancelled
  | uncertain
deriving DecidableEq

namespace RunStatus

def name : RunStatus → String
  | running => "running"
  | completed => "completed"
  | failed => "failed"
  | suspended => "suspended"
  | cancelled => "cancelled"
  | uncertain => "uncertain"

def named (s : String) : Option RunStatus :=
  [running, completed, failed, suspended, cancelled, uncertain].find? fun x => x.name = s

theorem named_name (x : RunStatus) : named x.name = some x := by
  cases x <;> decide

/-- The statuses of a run that has come to an end. -/
def isTerminal : RunStatus → Bool
  | completed | failed | suspended | cancelled => true
  | running | uncertain => false

end RunStatus

structure RunLifecycle where
  status : RunStatus
  startedAt : String
  completedAt : Option String
  continuedFromRunId : Option String
deriving DecidableEq

namespace RunLifecycle

def toDict (l : RunLifecycle) : Value :=
  .dict [("status", .str l.status.name), ("started_at", .str l.startedAt),
    ("completed_at", optionalValue .str l.completedAt),
    ("continued_from_run_id", optionalValue .str l.continuedFromRunId)]

/-- A timestamp that must be there once it was read. -/
def required (message : String) : Option String → Except PyError String
  | some s => .ok s
  | none => .error (protocolError message)

variable (host : BundleHost)

def make (arg : Value) : Except PyError RunLifecycle := do
  let status ← enumField host RunStatus.named "run lifecycle status" (arg.get "status")
  let startedAt ← optionalTimestamp host "started_at" (arg.get "started_at")
  let completedAt ← optionalTimestamp host "completed_at" (arg.get "completed_at")
  let continuedFromRunId ← optionalText host 256 "continued_from_run_id"
    (arg.get "continued_from_run_id")
  let startedAt ← required "run lifecycle started_at is required" startedAt
  raiseIf (status = .running && completedAt.isSome)
    (protocolError "running lifecycle requires null completed_at")
  raiseIf (status.isTerminal && completedAt.isNone)
    (protocolError "terminal lifecycle requires completed_at")
  raiseIf (completedAt.any fun stop => instant stop < instant startedAt)
    (protocolError "completed_at must not precede started_at")
  return ⟨status, startedAt, completedAt, continuedFromRunId⟩

def fields : List String := ["status", "started_at", "completed_at", "continued_from_run_id"]

def fromDict (v : Value) : Except PyError RunLifecycle := do
  let raw ← strictRecord fields "run lifecycle" v
  make host raw

def Constructed (l : RunLifecycle) : Prop := ∃ arg, make host arg = .ok l

variable {host}

theorem fromDict_toDict {l : RunLifecycle} (made : l.Constructed host) :
    fromDict host l.toDict = .ok l := by
  obtain ⟨arg, h⟩ := made
  simp only [make, bind_iff, raiseIf_ok, exists_const, pure_iff] at h
  obtain ⟨status, -, start, startOk, stop, stopOk, continued, continuedOk, start', given,
    running, terminal, later, rfl⟩ := h
  obtain rfl : start = some start' := by
    cases start with
    | none => cases given
    | some s => cases given; rfl
  simp only [fromDict, make, bind_iff, raiseIf_ok, exists_const, pure_iff]
  exact ⟨_, strictRecord_of_keys rfl, status, enumField_name RunStatus.named_name _ _,
    some start', optionalTimestamp_again startOk, stop, optionalTimestamp_again stopOk,
    continued, optionalText_again continuedOk, start', rfl, running, terminal, later, rfl⟩

end RunLifecycle

/-! ### Descriptor -/

/-- `_ORCHESTRATION_MODES`. -/
inductive OrchestrationMode where
  | default
  | developerWaitingApproval
deriving DecidableEq

namespace OrchestrationMode

def name : OrchestrationMode → String
  | default => "default"
  | developerWaitingApproval => "developer_waiting_approval"

def named (s : String) : Option OrchestrationMode :=
  [default, developerWaitingApproval].find? fun x => x.name = s

theorem named_name (x : OrchestrationMode) : named x.name = some x := by
  cases x <;> decide

end OrchestrationMode

structure RunDescriptor where
  model : String
  displayModel : String
  activeAgent : String
  agentOrchestration : OrchestrationMode
  iteration : Nat
deriving DecidableEq

namespace RunDescriptor

def toDict (d : RunDescriptor) : Value :=
  .dict [("model", .str d.model), ("display_model", .str d.displayModel),
    ("active_agent", .str d.activeAgent),
    ("agent_orchestration", .str d.agentOrchestration.name), ("iteration", natValue d.iteration)]

variable (host : BundleHost)

def make (arg : Value) : Except PyError RunDescriptor := do
  let model ← canonicalText host 256 "descriptor model" (arg.getD "model" (.str "unknown-model"))
  let displayModel ← canonicalText host 256 "descriptor display_model"
    (arg.getD "display_model" (.str "model-unavailable"))
  let activeAgent ← canonicalText host 256 "descriptor active_agent"
    (arg.getD "active_agent" (.str "unknown"))
  let agentOrchestration ← enumField host OrchestrationMode.named "descriptor agent_orchestration"
    (arg.getD "agent_orchestration" (.str "default"))
  let iteration ← count "iteration" (arg.getD "iteration" (.int 0))
  return ⟨model, displayModel, activeAgent, agentOrchestration, iteration⟩

def fields : List String :=
  ["model", "display_model", "active_agent", "agent_orchestration", "iteration"]

def fromDict (v : Value) : Except PyError RunDescriptor := do
  let raw ← strictRecord fields "run descriptor" v
  make host raw

def Constructed (d : RunDescriptor) : Prop := ∃ arg, make host arg = .ok d

variable {host}

theorem fromDict_toDict {d : RunDescriptor} (made : d.Constructed host) :
    fromDict host d.toDict = .ok d := by
  obtain ⟨arg, h⟩ := made
  simp only [make, bind_iff, pure_iff] at h
  obtain ⟨model, modelOk, display, displayOk, agent, agentOk, mode, -, iteration, iterationOk,
    rfl⟩ := h
  simp only [fromDict, make, bind_iff, pure_iff]
  exact ⟨_, strictRecord_of_keys rfl, model, canonicalText_again modelOk,
    display, canonicalText_again displayOk, agent, canonicalText_again agentOk,
    mode, enumField_name OrchestrationMode.named_name _ _, iteration, count_again iterationOk, rfl⟩

end RunDescriptor

/-! ### Children -/

structure RunChild where
  runId : String
  attemptId : String
  parentRunId : String
  relation : RunRelation
  bundleId : Option String
  status : RunStatus
deriving DecidableEq

namespace RunChild

def toDict (c : RunChild) : Value :=
  .dict [("run_id", .str c.runId), ("attempt_id", .str c.attemptId),
    ("parent_run_id", .str c.parentRunId), ("relation", .str c.relation.name),
    ("bundle_id", optionalValue .str c.bundleId), ("status", .str c.status.name)]

variable (host : BundleHost)

def make (arg : Value) : Except PyError RunChild := do
  let runId ← canonicalText host 256 "run_id" (arg.get "run_id")
  let attemptId ← canonicalText host 256 "attempt_id" (arg.get "attempt_id")
  let parentRunId ← canonicalText host 256 "parent_run_id" (arg.get "parent_run_id")
  let relation ← enumField host RunRelation.childNamed "child relation" (arg.get "relation")
  let bundleId ← optionalText host 256 "bundle_id" (arg.get "bundle_id")
  let status ← enumField host RunStatus.named "child status" (arg.get "status")
  raiseIf (runId = parentRunId) (protocolError "child run cannot be its own parent")
  return ⟨runId, attemptId, parentRunId, relation, bundleId, status⟩

def fields : List String :=
  ["run_id", "attempt_id", "parent_run_id", "relation", "bundle_id", "status"]

def fromDict (v : Value) : Except PyError RunChild := do
  let raw ← strictRecord fields "run child" v
  make host raw

def Constructed (c : RunChild) : Prop := ∃ arg, make host arg = .ok c

variable {host}

theorem fromDict_toDict {c : RunChild} (made : c.Constructed host) :
    fromDict host c.toDict = .ok c := by
  obtain ⟨arg, h⟩ := made
  simp only [make, bind_iff, raiseIf_ok, exists_const, pure_iff] at h
  obtain ⟨run, runOk, attempt, attemptOk, parent, parentOk, relation, relationOk, bundle, bundleOk,
    status, -, own, rfl⟩ := h
  obtain ⟨name, -, named⟩ := enumField_ok relationOk
  have relationAgain : enumField host RunRelation.childNamed "child relation"
      (.str relation.name) = .ok relation := by
    rw [enumField, RunRelation.childNamed_ok named]
  simp only [fromDict, make, bind_iff, raiseIf_ok, exists_const, pure_iff]
  exact ⟨_, strictRecord_of_keys rfl, run, canonicalText_again runOk,
    attempt, canonicalText_again attemptOk, parent, canonicalText_again parentOk,
    relation, relationAgain, bundle, optionalText_again bundleOk,
    status, enumField_name RunStatus.named_name _ _, own, rfl⟩

end RunChild

/-! ### Legacy attribution -/

/-- `_LEGACY_STATUSES`. -/
inductive LegacyStatus where
  | canonical
  | legacyPartial
deriving DecidableEq

namespace LegacyStatus

def name : LegacyStatus → String
  | canonical => "canonical"
  | legacyPartial => "legacy_partial"

def named (s : String) : Option LegacyStatus :=
  [canonical, legacyPartial].find? fun x => x.name = s

theorem named_name (x : LegacyStatus) : named x.name = some x := by
  cases x <;> decide

end LegacyStatus

/-- `LegacyAttribution`. A canonical attribution has neither source nor reason, a partial one has
both. -/
inductive LegacyAttribution where
  | canonical
  | legacyPartial (source reason : String)
deriving DecidableEq

namespace LegacyAttribution

def status : LegacyAttribution → LegacyStatus
  | canonical => .canonical
  | legacyPartial _ _ => .legacyPartial

def toDict : LegacyAttribution → Value
  | canonical => .dict [("status", .str "canonical"), ("source", .none), ("reason", .none)]
  | legacyPartial source reason =>
    .dict [("status", .str "legacy_partial"), ("source", .str source), ("reason", .str reason)]

variable (host : BundleHost)

def make (arg : Value) : Except PyError LegacyAttribution := do
  let status ← enumField host LegacyStatus.named "legacy status"
    (arg.getD "status" (.str "canonical"))
  let source ← optionalText host 256 "legacy source" (arg.get "source")
  let reason ← optionalText host 512 "legacy reason" (arg.get "reason")
  match status, source, reason with
  | .canonical, none, none => return canonical
  | .canonical, _, _ =>
    .error (protocolError "canonical attribution requires null source and reason")
  | .legacyPartial, some source, some reason => return legacyPartial source reason
  | .legacyPartial, _, _ =>
    .error (protocolError "legacy_partial attribution requires source and reason")

def fromDict (v : Value) : Except PyError LegacyAttribution := do
  let raw ← strictRecord ["status", "source", "reason"] "legacy attribution" v
  make host raw

def Constructed (l : LegacyAttribution) : Prop := ∃ arg, make host arg = .ok l

variable {host}

theorem fromDict_toDict {l : LegacyAttribution} (made : l.Constructed host) :
    fromDict host l.toDict = .ok l := by
  obtain ⟨arg, h⟩ := made
  simp only [make, bind_iff] at h
  obtain ⟨status, -, source, sourceOk, reason, reasonOk, h⟩ := h
  have canonical : enumField host LegacyStatus.named "legacy status" (.str "canonical") =
      .ok .canonical := enumField_name LegacyStatus.named_name _ .canonical
  have legacyPartial : enumField host LegacyStatus.named "legacy status" (.str "legacy_partial") =
      .ok .legacyPartial := enumField_name LegacyStatus.named_name _ .legacyPartial
  simp only [fromDict, make, bind_iff]
  split at h
  · cases h
    exact ⟨_, strictRecord_of_keys rfl, _, canonical, none, rfl, none, rfl, rfl⟩
  · cases h
  · cases h
    exact ⟨_, strictRecord_of_keys rfl, _, legacyPartial, _, optionalText_again sourceOk,
      _, optionalText_again reasonOk, rfl⟩
  · cases h

end LegacyAttribution

end Unchain.Accounting
