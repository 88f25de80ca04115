import Mathlib.Data.Prod.Lex
import Unchain.Accounting.Canonical

/-!
Metric events and their counters (`RunMetricEvent`, `RunMetricCounters`, `RunMetrics`).
-/

namespace Unchain.Accounting

open Lib Lib.Effect Python

/-! ### Errors and evidence -/

structure RunMetricError where
  category : String
  code : String
deriving DecidableEq

namespace RunMetricError

def toDict (e : RunMetricError) : Value :=
  .dict [("category", .str e.category), ("code", .str e.code)]

variable (host : BundleHost)

def make (arg : Value) : Except PyError RunMetricError := do
  let category ← slug host "error category" (arg.get "category")
  let code ← slug host "error code" (arg.get "code")
  return ⟨category, code⟩

def fromDict (v : Value) : Except PyError RunMetricError := do
  let raw ← strictRecord ["category", "code"] "run metric error" v
  make host raw

def Constructed (e : RunMetricError) : Prop := ∃ arg, make host arg = .ok e

variable {host}

theorem fromDict_toDict {e : RunMetricError} (made : e.Constructed host) :
    fromDict host e.toDict = .ok e := by
  obtain ⟨arg, h⟩ := made
  simp only [make, bind_iff, pure_iff] at h
  obtain ⟨category, categoryOk, code, codeOk, rfl⟩ := h
  simp only [fromDict, make, bind_iff, pure_iff]
  exact ⟨_, strictRecord_of_keys rfl, category, slug_again categoryOk, code, slug_again codeOk, rfl⟩

end RunMetricError

/-- `_METRIC_EVIDENCE_KINDS`. -/
inductive MetricEvidenceKind where
  | artifact
  | interaction
  | contextEvent
deriving DecidableEq

namespace MetricEvidenceKind

def name : MetricEvidenceKind → String
  | artifact => "artifact"
  | interaction => "interaction"
  | contextEvent => "context_event"

def named (s : String) : Option MetricEvidenceKind :=
  [artifact, interaction, contextEvent].find? fun x => x.name = s

theorem named_name (x : MetricEvidenceKind) : named x.name = some x := by
  cases x <;> decide

end MetricEvidenceKind

structure RunMetricEvidenceRef where
  kind : MetricEvidenceKind
  refId : String
deriving DecidableEq

namespace RunMetricEvidenceRef

/-- The pattern of an opaque id: the kind, an underscore and 64 hexadecimal digits. -/
def isOpaqueId (kind : MetricEvidenceKind) (refId : String) : Bool :=
  let start := (kind.name ++ "_").toList
  start.isPrefixOf refId.toList && isSha256 (String.ofList (refId.toList.drop start.length))

def toDict (r : RunMetricEvidenceRef) : Value :=
  .dict [("kind", .str r.kind.name), ("ref_id", .str r.refId)]

def sortKey (r : RunMetricEvidenceRef) : Lex (String × String) := toLex (r.kind.name, r.refId)

variable (host : BundleHost)

def make (arg : Value) : Except PyError RunMetricEvidenceRef := do
  let kind ← enumField host MetricEvidenceKind.named "metric evidence kind" (arg.get "kind")
  let refId ← canonicalText host 256 "metric evidence ref_id" (arg.get "ref_id")
  raiseIf (!isOpaqueId kind refId)
    (protocolError "metric evidence ref_id must be a kind-bound opaque sha256 id")
  return ⟨kind, refId⟩

def fromDict (v : Value) : Except PyError RunMetricEvidenceRef := do
  let raw ← strictRecord ["kind", "ref_id"] "run metric evidence ref" v
  make host raw

def Constructed (r : RunMetricEvidenceRef) : Prop := ∃ arg, make host arg = .ok r

variable {host}

theorem fromDict_toDict {r : RunMetricEvidenceRef} (made : r.Constructed host) :
    fromDict host r.toDict = .ok r := by
  obtain ⟨arg, h⟩ := made
  simp only [make, bind_iff, raiseIf_ok, exists_const, pure_iff] at h
  obtain ⟨kind, -, refId, refIdOk, opaqueId, rfl⟩ := h
  simp only [fromDict, make, bind_iff, raiseIf_ok, exists_const, pure_iff]
  exact ⟨_, strictRecord_of_keys rfl, kind, enumField_name MetricEvidenceKind.named_name _ _,
    refId, canonicalText_again refIdOk, opaqueId, rfl⟩

end RunMetricEvidenceRef

/-! ### Events -/

/-- `_METRIC_EVENT_KINDS`. -/
inductive MetricKind where
  | artifact
  | modelAttempt
  | iteration
  | toolCall
  | toolResult
  | interaction
  | contextBuild
  | contextCompaction
  | error
deriving DecidableEq

namespace MetricKind

def name : MetricKind → String
  | artifact => "artifact"
  | modelAttempt => "model_attempt"
  | iteration => "iteration"
  | toolCall => "tool_call"
  | toolResult => "tool_result"
  | interaction => "interaction"
  | contextBuild => "context_build"
  | contextCompaction => "context_compaction"
  | error => "error"

def named (s : String) : Option MetricKind :=
  [artifact, modelAttempt, iteration, toolCall, toolResult, interaction, contextBuild,
    contextCompaction, error].find? fun x => x.name = s

theorem named_name (x : MetricKind) : named x.name = some x := by
  cases x <;> decide

end MetricKind

/-- `_METRIC_EVENT_OUTCOMES`. -/
inductive MetricOutcome where
  | completed
  | failed
  | uncertain
  | requested
  | skipped
deriving DecidableEq

namespace MetricOutcome

def name : MetricOutcome → String
  | completed => "completed"
  | failed => "failed"
  | uncertain => "uncertain"
  | requested => "requested"
  | skipped => "skipped"

def named (s : String) : Option MetricOutcome :=
  [completed, failed, uncertain, requested, skipped].find? fun x => x.name = s

theorem named_name (x : MetricOutcome) : named x.name = some x := by
  cases x <;> decide

end MetricOutcome

structure RunMetricEvent where
  executionId : String
  attemptId : String
  rootRunId : String
  ownerRunId : String
  parentRunId : Option String
  kind : MetricKind
  subjectId : String
  outcome : MetricOutcome
  error : Option RunMetricError
  evidenceRefs : List RunMetricEvidenceRef
  metricEventId : String
deriving DecidableEq

/-- `deterministic_metric_event_id`. -/
def deterministicMetricEventId (host : BundleHost) (arg : Value) : Except PyError String := do
  let executionId ← canonicalText host 256 "execution_id" (arg.get "execution_id")
  let attemptId ← canonicalText host 256 "attempt_id" (arg.get "attempt_id")
  let rootRunId ← canonicalText host 256 "root_run_id" (arg.get "root_run_id")
  let ownerRunId ← canonicalText host 256 "owner_run_id" (arg.get "owner_run_id")
  let parentRunId ← optionalText host 256 "parent_run_id" (arg.get "parent_run_id")
  let kind ← enumField host MetricKind.named "metric event kind" (arg.get "kind")
  let subjectId ← canonicalText host 256 "metric subject_id" (arg.get "subject_id")
  let digest ← canonicalSha256 host (.dict [("domain", .str "unchain.metric_event_id.v1"),
    ("execution_id", .str executionId), ("attempt_id", .str attemptId),
    ("root_run_id", .str rootRunId), ("owner_run_id", .str ownerRunId),
    ("parent_run_id", optionalValue .str parentRunId), ("kind", .str kind.name),
    ("subject_id", .str subjectId)])
  return "me_" ++ digest

theorem deterministicMetricEventId_ok {host : BundleHost} {arg : Value} {id : String}
    (h : deterministicMetricEventId host arg = .ok id) :
    ∃ digest, isSha256 digest = true ∧ id = "me_" ++ digest := by
  simp only [deterministicMetricEventId, bind_iff, pure_iff] at h
  obtain ⟨_, -, _, -, _, -, _, -, _, -, _, -, _, -, digest, hashed, rfl⟩ := h
  exact ⟨digest, canonicalSha256_hex hashed, rfl⟩

namespace RunMetricEvent

def toDict (e : RunMetricEvent) : Value :=
  .dict [("metric_event_id", .str e.metricEventId), ("execution_id", .str e.executionId),
    ("attempt_id", .str e.attemptId), ("root_run_id", .str e.rootRunId),
    ("owner_run_id", .str e.ownerRunId), ("parent_run_id", optionalValue .str e.parentRunId),
    ("kind", .str e.kind.name), ("subject_id", .str e.subjectId),
    ("outcome", .str e.outcome.name), ("error", optionalValue RunMetricError.toDict e.error),
    ("evidence_refs", .list (e.evidenceRefs.map RunMetricEvidenceRef.toDict))]

variable (host : BundleHost)

/-- `RunMetricEvent(error=error, evidence_refs=evidenceRefs, ...)`. -/
def make (error : Option RunMetricError) (evidenceRefs : List RunMetricEvidenceRef) (arg : Value) :
    Except PyError RunMetricEvent := do
  let executionId ← canonicalText host 256 "execution_id" (arg.get "execution_id")
  let attemptId ← canonicalText host 256 "attempt_id" (arg.get "attempt_id")
  let rootRunId ← canonicalText host 256 "root_run_id" (arg.get "root_run_id")
  let ownerRunId ← canonicalText host 256 "owner_run_id" (arg.get "owner_run_id")
  let parentRunId ← optionalText host 256 "parent_run_id" (arg.get "parent_run_id")
  let kind ← enumField host MetricKind.named "metric event kind" (arg.get "kind")
  let subjectId ← canonicalText host 256 "metric subject_id" (arg.get "subject_id")
  let outcome ← enumField host MetricOutcome.named "metric event outcome" (arg.get "outcome")
  raiseIf (error.isSome && outcome ≠ .failed && outcome ≠ .uncertain)
    (protocolError "metric event error requires failed or uncertain outcome")
  let evidence := sortedBy RunMetricEvidenceRef.sortKey evidenceRefs
  raiseIf (16 < evidence.length) (protocolError "metric event exceeds the evidence ref limit")
  raiseIf (!decide evidence.Nodup) (protocolError "metric event evidence refs must be unique")
  let expectedId ← deterministicMetricEventId host
    (.dict [("execution_id", .str executionId), ("attempt_id", .str attemptId),
      ("root_run_id", .str rootRunId), ("owner_run_id", .str ownerRunId),
      ("parent_run_id", optionalValue .str parentRunId), ("kind", .str kind.name),
      ("subject_id", .str subjectId)])
  checkGivenId host "metric_event_id"
    "metric_event_id does not match its deterministic identity" expectedId
    (arg.get "metric_event_id")
  return ⟨executionId, attemptId, rootRunId, ownerRunId, parentRunId, kind, subjectId, outcome,
    error, evidence, expectedId⟩

def fields : List String :=
  ["metric_event_id", "execution_id", "attempt_id", "root_run_id", "owner_run_id", "parent_run_id",
    "kind", "subject_id", "outcome", "error", "evidence_refs"]

def fromDict (v : Value) : Except PyError RunMetricEvent := do
  let raw ← strictRecord fields "run metric event" v
  let items ← exactArray "metric event evidence_refs must be an exact array"
    (raw.get "evidence_refs")
  let error ← optionalField (RunMetricError.fromDict host) (raw.get "error")
  let evidenceRefs ← items.mapM (RunMetricEvidenceRef.fromDict host)
  make host error evidenceRefs raw

/-- What its constructor makes from parts that their constructors made. -/
structure Constructed (e : RunMetricEvent) : Prop where
  error : ∀ x, e.error = some x → x.Constructed host
  evidence : ∀ r ∈ e.evidenceRefs, r.Constructed host
  event : ∃ evidenceRefs arg, make host e.error evidenceRefs arg = .ok e

variable {host}

theorem fromDict_toDict {e : RunMetricEvent} (made : e.Constructed host) :
    fromDict host e.toDict = .ok e := by
  obtain ⟨errors, evidence, given, arg, h⟩ := made
  have errorAgain : optionalField (RunMetricError.fromDict host)
      (optionalValue RunMetricError.toDict e.error) = .ok e.error := by
    cases present : e.error with
    | none => rfl
    | some x =>
      exact congrArg (Except.map some) (RunMetricError.fromDict_toDict (errors x present))
  have evidenceAgain : (e.evidenceRefs.map RunMetricEvidenceRef.toDict).mapM
      (RunMetricEvidenceRef.fromDict host) = .ok e.evidenceRefs :=
    mapM_map_ok fun r mem => RunMetricEvidenceRef.fromDict_toDict (evidence r mem)
  simp only [make, bind_iff, raiseIf_ok, exists_const, pure_iff] at h
  obtain ⟨execution, executionOk, attempt, attemptOk, root, rootOk, owner, ownerOk,
    parent, parentOk, kind, -, subject, subjectOk, outcome, -, withError, few, unique,
    id, idOk, _, -, same⟩ := h
  obtain ⟨digest, hex, rfl⟩ := deterministicMetricEventId_ok idOk
  simp only [fromDict, make, bind_iff, raiseIf_ok, exists_const, pure_iff]
  rw [← same] at evidenceAgain ⊢
  refine ⟨_, strictRecord_of_keys rfl, _, rfl, _, errorAgain, _, evidenceAgain,
    execution, canonicalText_again executionOk, attempt, canonicalText_again attemptOk,
    root, canonicalText_again rootOk, owner, canonicalText_again ownerOk,
    parent, optionalText_again parentOk, kind, enumField_name MetricKind.named_name _ _,
    subject, canonicalText_again subjectOk, outcome, enumField_name MetricOutcome.named_name _ _,
    withError, ?_, ?_, _, idOk, (), checkGivenId_again hex (by decide) (by decide), ?_⟩
  · rw [sortedBy_sortedBy]
    exact few
  · rw [sortedBy_sortedBy]
    exact unique
  · rw [sortedBy_sortedBy]

end RunMetricEvent

/-! ### Counters -/

@[ext] structure RunMetricCounters where
  artifacts : Nat
  modelAttempts : Nat
  iterations : Nat
  toolCalls : Nat
  toolResults : Nat
  interactions : Nat
  contextBuilds : Nat
  contextCompactions : Nat
  errors : Nat
deriving DecidableEq

namespace RunMetricCounters

def toDict (c : RunMetricCounters) : Value :=
  .dict [("artifacts", natValue c.artifacts), ("model_attempts", natValue c.modelAttempts),
    ("iterations", natValue c.iterations), ("tool_calls", natValue c.toolCalls),
    ("tool_results", natValue c.toolResults), ("interactions", natValue c.interactions),
    ("context_builds", natValue c.contextBuilds),
    ("context_compactions", natValue c.contextCompactions), ("errors", natValue c.errors)]

def make (arg : Value) : Except PyError RunMetricCounters := do
  let read (field : String) := count field (arg.getD field (.int 0))
  let artifacts ← read "artifacts"
  let modelAttempts ← read "model_attempts"
  let iterations ← read "iterations"
  let toolCalls ← read "tool_calls"
  let toolResults ← read "tool_results"
  let interactions ← read "interactions"
  let contextBuilds ← read "context_builds"
  let contextCompactions ← read "context_compactions"
  let errors ← read "errors"
  return ⟨artifacts, modelAttempts, iterations, toolCalls, toolResults, interactions, contextBuilds,
    contextCompactions, errors⟩

def fields : List String :=
  ["artifacts", "model_attempts", "iterations", "tool_calls", "tool_results", "interactions",
    "context_builds", "context_compactions", "errors"]

def fromDict (v : Value) : Except PyError RunMetricCounters := do
  let raw ← strictRecord fields "run metric counters" v
  make raw

def tally (events : List RunMetricEvent) : RunMetricCounters :=
  let n (kind : MetricKind) := events.countP fun e => e.kind = kind
  ⟨n .artifact, n .modelAttempt, n .iteration, n .toolCall, n .toolResult, n .interaction,
    n .contextBuild, n .contextCompaction, n .error⟩

def fromEvents (events : List RunMetricEvent) : Except PyError RunMetricCounters :=
  make (tally events).toDict

theorem make_ok {arg : Value} {c : RunMetricCounters} (h : make arg = .ok c) :
    (∀ field ∈ fields, arg.getD field (.int 0) = c.toDict.get field) ∧ make c.toDict = .ok c := by
  simp only [make, bind_iff, pure_iff] at h ⊢
  obtain ⟨a, aOk, b, bOk, c, cOk, d, dOk, e, eOk, f, fOk, g, gOk, i, iOk, j, jOk, rfl⟩ := h
  constructor
  · simp only [fields, List.forall_mem_cons]
    exact ⟨(count_ok aOk).1, (count_ok bOk).1, (count_ok cOk).1, (count_ok dOk).1, (count_ok eOk).1,
      (count_ok fOk).1, (count_ok gOk).1, (count_ok iOk).1, (count_ok jOk).1,
      List.forall_mem_nil _⟩
  · exact ⟨a, count_again aOk, b, count_again bOk, c, count_again cOk, d, count_again dOk,
      e, count_again eOk, f, count_again fOk, g, count_again gOk, i, count_again iOk,
      j, count_again jOk, rfl⟩

/-- Counters are made from their own record as they are. -/
theorem make_toDict {c d : RunMetricCounters} (h : make c.toDict = .ok d) : d = c := by
  have same := (make_ok h).1
  simp only [fields, List.forall_mem_cons] at same
  obtain ⟨a, b, c', d', e, f, g, i, j, -⟩ := same
  exact RunMetricCounters.ext (natValue_inj a).symm (natValue_inj b).symm (natValue_inj c').symm
    (natValue_inj d').symm (natValue_inj e).symm (natValue_inj f).symm (natValue_inj g).symm
    (natValue_inj i).symm (natValue_inj j).symm

theorem hasKey_toDict (c : RunMetricCounters) (k : String) :
    c.toDict.hasKey k = true ↔ k ∈ fields := Assoc.get_isSome_iff

theorem fromDict_ok {v : Value} {c : RunMetricCounters} (h : fromDict v = .ok c) :
    SameRecord [] v c.toDict ∧ fromDict c.toDict = .ok c := by
  obtain ⟨raw, strict, made⟩ := bind_ok h
  obtain ⟨rfl, has⟩ := strictRecord_ok strict
  obtain ⟨values, again⟩ := make_ok made
  constructor
  · refine sameRecord_of_strict strict (hasKey_toDict c) (fun k mem _ => ?_) nofun
    obtain ⟨x, found⟩ := Option.isSome_iff_exists.mp ((has k).mpr mem)
    have value := values k mem
    simp only [Value.getD, Value.get, found, Option.getD_some] at value ⊢
    exact value
  · simp only [fromDict, bind_iff]
    exact ⟨_, strictRecord_of_keys rfl, again⟩

end RunMetricCounters

/-! ### The metrics of a run -/

@[ext] structure RunMetrics where
  events : List RunMetricEvent
  direct : RunMetricCounters
  descendant : RunMetricCounters
  all : RunMetricCounters
deriving DecidableEq

namespace RunMetrics

/-- `METRIC_EVENT_SET_UNION_ALGORITHM`. -/
def algorithm : String := "unique_metric_event_set_union.v1"

def toDict (m : RunMetrics) : Value :=
  .dict [("algorithm", .str algorithm), ("events", .list (m.events.map RunMetricEvent.toDict)),
    ("direct", m.direct.toDict), ("descendant", m.descendant.toDict), ("all", m.all.toDict)]

/-- `RunMetrics(...)`. -/
def make (given : Value) (events : List RunMetricEvent) (direct descendant all : RunMetricCounters) :
    Except PyError RunMetrics := do
  raiseIf (!given.eqPy (.str algorithm)) (protocolError "run metrics algorithm is unsupported")
  let events := sortedBy RunMetricEvent.metricEventId events
  raiseIf (50000 < events.length) (protocolError "run bundle exceeds the metric event limit")
  raiseIf (!decide (events.map RunMetricEvent.metricEventId).Nodup)
    (protocolError "metric event ids must be unique")
  let expected ← RunMetricCounters.fromEvents events
  raiseIf (all ≠ expected) (protocolError "all metric counters disagree with events")
  return ⟨events, direct, descendant, all⟩

/-- `from_events`. -/
def fromEvents (events : List RunMetricEvent) (directRunId : String) : Except PyError RunMetrics := do
  let events := sortedBy RunMetricEvent.metricEventId events
  let direct ← RunMetricCounters.fromEvents (events.filter fun e => e.ownerRunId = directRunId)
  let descendant ← RunMetricCounters.fromEvents (events.filter fun e => e.ownerRunId ≠ directRunId)
  let all ← RunMetricCounters.fromEvents events
  make (.str algorithm) events direct descendant all

variable (host : BundleHost)

def fields : List String := ["algorithm", "events", "direct", "descendant", "all"]

def fromDict (v : Value) : Except PyError RunMetrics := do
  let raw ← strictRecord fields "run metrics" v
  let items ← exactArray "run metrics events must be an exact array" (raw.get "events")
  let events ← items.mapM (RunMetricEvent.fromDict host)
  let direct ← RunMetricCounters.fromDict (raw.get "direct")
  let descendant ← RunMetricCounters.fromDict (raw.get "descendant")
  let all ← RunMetricCounters.fromDict (raw.get "all")
  make (raw.get "algorithm") events direct descendant all

end RunMetrics

end Unchain.Accounting
