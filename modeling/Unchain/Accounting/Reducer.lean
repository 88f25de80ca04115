import Unchain.Accounting.Bundle
import Unchain.Lib.KeyedUnion

/-!
The reducer of a run tree's facts (`RunBundleReducer`).

Receipts, children and metric events are united under their ids, and everything in the bundle is a
function of these three unions.
-/

namespace Unchain.Accounting

open Lib Lib.Effect Python

structure Facts where
  receipts : List ProviderCallReceipt
  children : List RunChild
  metricEvents : List RunMetricEvent

/-- What else a reduction is given. -/
structure ReduceArgs where
  identity : RunIdentity
  lifecycle : RunLifecycle
  descriptor : Option RunDescriptor
  revision : Value
  legacy : Option LegacyAttribution
  extensions : Value

section Reduce

variable (host : BundleHost)

/-- `_metric_event_from_receipt`. -/
def metricEventFromReceipt (r : ProviderCallReceipt) : Except PyError RunMetricEvent :=
  RunMetricEvent.make host none [] (.dict [("execution_id", .str r.identity.executionId),
    ("attempt_id", .str r.identity.attemptId), ("root_run_id", .str r.identity.rootRunId),
    ("owner_run_id", .str r.identity.ownerRunId),
    ("parent_run_id", optionalValue .str r.identity.parentRunId),
    ("kind", .str "model_attempt"), ("subject_id", .str r.providerCallId),
    ("outcome", .str r.status.name)])

def receiptsAgree (prior r : ProviderCallReceipt) : Except PyError Unit := do
  let there ← prior.receiptSha256 host
  let here ← r.receiptSha256 host
  raiseIf (there ≠ here)
    (protocolError "one provider_call_id has conflicting immutable receipts")

def childrenAgree (prior child : RunChild) : Except PyError Unit :=
  raiseIf (prior ≠ child) (protocolError "one child run id has conflicting topology")

def eventsAgree (message : String) (prior event : RunMetricEvent) : Except PyError Unit :=
  raiseIf (prior ≠ event) (protocolError message)

variable (receipts : List ProviderCallReceipt)

def uniteReceipts : Except PyError (List (String × ProviderCallReceipt)) :=
  KeyedUnion.insertAll ProviderCallReceipt.providerCallId (receiptsAgree host) [] receipts

def uniteChildren (children : List RunChild) : Except PyError (List (String × RunChild)) :=
  KeyedUnion.insertAll RunChild.runId childrenAgree [] children

def uniteEvents (events : List RunMetricEvent) : Except PyError (List (String × RunMetricEvent)) :=
  KeyedUnion.insertAll RunMetricEvent.metricEventId
    (eventsAgree "one metric_event_id has conflicting immutable events") [] events

def addModelAttempt (m : List (String × RunMetricEvent)) (r : ProviderCallReceipt) :
    Except PyError (List (String × RunMetricEvent)) := do
  let event ← metricEventFromReceipt host r
  KeyedUnion.insert RunMetricEvent.metricEventId
    (eventsAgree "provider receipt conflicts with its model attempt metric event") m event

def aggregate (runId : String) (receipts : List ProviderCallReceipt) :
    Except PyError RunAggregation := do
  let direct := RunBundle.directCalls runId receipts
  let descendant := RunBundle.descendantCalls runId receipts
  let directUsage ← RunBundle.sumUsage host direct
  let descendantUsage ← RunBundle.sumUsage host descendant
  let allUsage ← RunBundle.sumUsage host receipts
  let ids (receipts : List ProviderCallReceipt) := (RunBundle.callIds receipts).map Value.str
  RunAggregation.make host (.str RunAggregation.algorithm) (ids direct) (ids descendant)
    (ids receipts) directUsage descendantUsage allUsage

/-- Provider, model and tier. -/
abbrev SliceKey := String × String × Option String

/-- `grouped.setdefault(key, []).append(receipt)`. -/
def addToGroup (m : List (SliceKey × List ProviderCallReceipt)) (r : ProviderCallReceipt) :
    List (SliceKey × List ProviderCallReceipt) :=
  let key : SliceKey := (r.provider, r.model, r.serviceTier)
  Assoc.set key ((Assoc.get key m).getD [] ++ [r]) m

def sliceOf (group : SliceKey × List ProviderCallReceipt) : Except PyError UsageSlice := do
  let usage ← RunBundle.sumUsage host group.2
  let coverage ← UsageCoverage.fromReceipts host group.2
  let cost ← RunCost.fromReceipts host group.2
  UsageSlice.make host ((RunBundle.callIds group.2).map .str) usage coverage cost
    (.dict [("provider", .str group.1.1), ("model", .str group.1.2.1),
      ("service_tier", optionalValue .str group.1.2.2)])

def slices : Except PyError (List UsageSlice) :=
  let grouped := receipts.foldl addToGroup []
  let key (group : SliceKey × List ProviderCallReceipt) : Lex (String × Lex (String × String)) :=
    toLex (group.1.1, toLex (group.1.2.1, group.1.2.2.getD ""))
  (sortedBy key grouped).mapM (sliceOf host)

/-- The attribution when none is given. -/
def defaultLegacy : Except PyError LegacyAttribution :=
  if RunBundle.containsLegacy receipts then
    LegacyAttribution.make host (.dict [("status", .str "legacy_partial"),
      ("source", .str "unchain.provider_turn_result.v1"),
      ("reason", .str "canonical provider usage was unavailable on recovery")])
  else LegacyAttribution.make host (.dict [])

def orDefault {α : Type} (given : Option α) (default : Except PyError α) : Except PyError α :=
  match given with
  | some a => .ok a
  | none => default

/-- The bundle of united facts, in order of their ids. -/
def project (args : ReduceArgs) (receipts : List ProviderCallReceipt) (children : List RunChild)
    (events : List RunMetricEvent) : Except PyError RunBundle := do
  let descriptor ← orDefault args.descriptor (RunDescriptor.make host (.dict []))
  let aggregation ← aggregate host args.identity.runId receipts
  let usageSlices ← slices host receipts
  let legacy ← orDefault args.legacy (defaultLegacy host receipts)
  let evidence ← RunEvidence.fromReceipts host receipts
  let metrics ← RunMetrics.fromEvents events args.identity.runId
  let coverage ← UsageCoverage.fromReceipts host receipts
  let cost ← RunCost.fromReceipts host receipts
  RunBundle.make host ⟨args.identity, args.lifecycle, descriptor, metrics, receipts, children,
      aggregation, usageSlices, coverage, cost, legacy, evidence, 0, [], "", ""⟩
    (.dict [("revision", args.revision), ("extensions", args.extensions.or (.dict []))])

/-- `RunBundleReducer.reduce`. -/
def reduce (args : ReduceArgs) (facts : Facts) : Except PyError RunBundle := do
  let receiptById ← uniteReceipts host facts.receipts
  let childById ← uniteChildren facts.children
  let eventById ← uniteEvents facts.metricEvents
  let eventById ← (KeyedUnion.ordered receiptById).foldlM (addModelAttempt host) eventById
  project host args (KeyedUnion.ordered receiptById) (KeyedUnion.ordered childById)
    (KeyedUnion.ordered eventById)

/-- The child that a given bundle is about, unless it is about the run itself. -/
def childOfBundle (identity : RunIdentity) (b : RunBundle) : Except PyError (List RunChild) := do
  raiseIf (b.identity.executionId ≠ identity.executionId
      || b.identity.rootRunId ≠ identity.rootRunId)
    (protocolError "child bundle identity crosses the target run boundary")
  if b.identity.runId = identity.runId then return []
  else
    match b.identity.parentRunId with
    | none => .error (.raised "AssertionError" "")
    | some parentRunId => do
      let child ← RunChild.make host (.dict [("run_id", .str b.identity.runId),
        ("attempt_id", .str b.identity.attemptId), ("parent_run_id", .str parentRunId),
        ("relation", .str b.identity.relation.name), ("bundle_id", .str b.bundleId),
        ("status", .str b.lifecycle.status.name)])
      return [child]

/-- The facts of some bundles, after the facts given directly. -/
def Facts.withBundles (facts : Facts) (bundles : List RunBundle) (own : List (List RunChild)) :
    Facts where
  receipts := facts.receipts ++ bundles.flatMap RunBundle.providerCalls
  children := facts.children ++
    (bundles.zip own).flatMap fun pair => pair.1.children ++ pair.2
  metricEvents := facts.metricEvents ++ bundles.flatMap fun b => b.metrics.events

/-- `RunBundleReducer.reduce_bundles`. -/
def reduceBundles (args : ReduceArgs) (bundles : List RunBundle) (facts : Facts) :
    Except PyError RunBundle := do
  let own ← bundles.mapM (childOfBundle host args.identity)
  let descriptor := args.descriptor.or
    ((bundles.find? fun b => b.identity = args.identity).map RunBundle.descriptor)
  reduce host { args with descriptor } (facts.withBundles bundles own)

end Reduce

/-! ### What a projection is -/

/-- Every part of a projection, from the united facts. -/
structure Projected (host : BundleHost) (args : ReduceArgs) (receipts : List ProviderCallReceipt)
    (children : List RunChild) (events : List RunMetricEvent) (b : RunBundle) : Prop where
  identity : b.identity = args.identity
  lifecycle : b.lifecycle = args.lifecycle
  descriptor : orDefault args.descriptor (RunDescriptor.make host (.dict [])) = .ok b.descriptor
  metrics : RunMetrics.fromEvents events args.identity.runId = .ok b.metrics
  providerCalls : b.providerCalls = sortedBy ProviderCallReceipt.providerCallId receipts
  children : b.children = sortedBy RunChild.runId children
  aggregation : aggregate host args.identity.runId receipts = .ok b.aggregation
  slices : ∃ made, slices host receipts = .ok made ∧ b.usageSlices = sortedBy UsageSlice.sortKey made
  coverage : UsageCoverage.fromReceipts host receipts = .ok b.coverage
  cost : RunCost.fromReceipts host receipts = .ok b.cost
  legacy : orDefault args.legacy (defaultLegacy host receipts) = .ok b.legacy
  evidence : RunEvidence.fromReceipts host receipts = .ok b.evidence
  made : ∃ parts, RunBundle.MadeOf host parts
    (.dict [("revision", args.revision), ("extensions", args.extensions.or (.dict []))]) b

theorem project_ok {host : BundleHost} {args : ReduceArgs} {receipts : List ProviderCallReceipt}
    {children : List RunChild} {events : List RunMetricEvent} {b : RunBundle}
    (h : project host args receipts children events = .ok b) :
    Projected host args receipts children events b := by
  simp only [project, bind_iff] at h
  obtain ⟨descriptor, descriptorOk, aggregation, aggregationOk, slices, slicesOk, legacy, legacyOk,
    evidence, evidenceOk, metrics, metricsOk, coverage, coverageOk, cost, costOk, made⟩ := h
  have madeOf := RunBundle.make_iff.mp made
  have parts := madeOf.parts
  refine ⟨?_, ?_, ?_, ?_, ?_, ?_, ?_, ⟨slices, slicesOk, ?_⟩, ?_, ?_, ?_, ?_, _, madeOf⟩
  all_goals rw [parts]
  all_goals first | rfl | assumption

def rootArgs : ReduceArgs where
  identity := ⟨"e", "a", "r", "r", none, .root⟩
  lifecycle := ⟨.running, "2024-01-01T00:00:00Z", none, none⟩
  descriptor := none
  revision := .int 1
  legacy := none
  extensions := .none

end Unchain.Accounting
