import Unchain.Accounting.Metrics
import Unchain.Accounting.Run
import Unchain.Accounting.Totals

/-!
The bundle of a run tree (`RunBundle`): its constructor with the validation of the projection, and
its wire format.
-/

namespace Unchain.Accounting

open Lib Lib.Effect Python

@[ext] structure RunBundle where
  identity : RunIdentity
  lifecycle : RunLifecycle
  descriptor : RunDescriptor
  metrics : RunMetrics
  providerCalls : List ProviderCallReceipt
  children : List RunChild
  aggregation : RunAggregation
  usageSlices : List UsageSlice
  coverage : UsageCoverage
  cost : RunCost
  legacy : LegacyAttribution
  evidence : RunEvidence
  revision : Nat
  extensions : Dict
  bundleId : String
  bundleDigest : String

/-! ### The topology of the run tree -/

section Topology

variable (host : BundleHost) (identity : RunIdentity) (children : List RunChild)

/-- `child_by_id.get(run_id)`. -/
def childById (runId : String) : Option RunChild := children.find? fun c => c.runId = runId

def childIdentity (c : RunChild) : Except PyError RunIdentity :=
  RunIdentity.make host (.dict [("execution_id", .str identity.executionId),
    ("attempt_id", .str c.attemptId), ("root_run_id", .str identity.rootRunId),
    ("run_id", .str c.runId), ("parent_run_id", .str c.parentRunId),
    ("relation", .str c.relation.name)])

def checkChild (c : RunChild) : Except PyError Unit := do
  raiseIf (c.parentRunId ≠ identity.runId && (childById children c.parentRunId).isNone)
    (protocolError "run topology contains an orphan child")
  raiseIf c.bundleId.isNone (protocolError "materialized run child requires a bundle_id")
  let own ← childIdentity host identity c
  let expected ← deterministicBundleId host own
  raiseIf (c.bundleId ≠ some expected)
    (protocolError "child bundle_id disagrees with its deterministic identity")

/-- The walk from a child up to the owner of the bundle. Every step visits another child, so that
as many steps as there are children are enough (`walkUp_fuel`). -/
def walkUp : (steps : Nat) → (visited : List String) → (cursor : RunChild) → Except PyError Unit
  | 0, _, _ => .error (protocolError "run topology contains a child cycle")
  | steps + 1, visited, cursor =>
    if cursor.parentRunId = identity.runId then .ok ()
    else
      match childById children cursor.parentRunId with
      | none => .error (protocolError "run topology child is not rooted at the bundle owner")
      | some parent =>
        if visited.contains parent.runId then
          .error (protocolError "run topology contains a child cycle")
        else walkUp steps (parent.runId :: visited) parent

def checkTopology : Except PyError Unit := do
  raiseIf (childById children identity.runId).isSome
    (protocolError "run topology cannot contain the root as its own child")
  children.forM (checkChild host identity children)
  children.forM fun c => walkUp identity children (children.length + 1) [c.runId] c

/-- `owner_attempts.get(run_id)`. -/
def ownerAttempt (runId : String) : Option String :=
  if runId = identity.runId then some identity.attemptId
  else (childById children runId).map RunChild.attemptId

def ownerParent (runId : String) : Option String :=
  if runId = identity.runId then identity.parentRunId
  else (childById children runId).map RunChild.parentRunId

end Topology

theorem walkUp_fuel {identity : RunIdentity} {children : List RunChild} :
    ∀ (steps : Nat) (visited : List String) (cursor : RunChild), visited.Nodup →
      visited ⊆ children.map RunChild.runId → children.length < steps + visited.length →
      walkUp identity children (steps + 1) visited cursor =
        walkUp identity children steps visited cursor := by
  intro steps
  induction steps with
  | zero =>
    intro visited cursor nodup within room
    have short := (List.subperm_of_subset nodup within).length_le
    rw [List.length_map] at short
    omega
  | succ steps ih =>
    intro visited cursor nodup within room
    rw [walkUp, walkUp]
    split
    · rfl
    · cases found : childById children cursor.parentRunId with
      | none => rfl
      | some parent =>
        simp only
        split
        · rfl
        · rename_i fresh
          have mem : parent.runId ∈ children.map RunChild.runId :=
            List.mem_map.mpr ⟨parent, List.mem_of_find?_eq_some found, rfl⟩
          refine ih _ _ ?_ ?_ ?_
          · exact List.nodup_cons.mpr ⟨by simpa using fresh, nodup⟩
          · exact List.cons_subset.mpr ⟨mem, within⟩
          · rw [List.length_cons]
            omega

namespace RunBundle

/-! ### The projection -/

section Validation

variable (host : BundleHost) (b : RunBundle)

def checkCall (r : ProviderCallReceipt) : Except PyError Unit := do
  raiseIf (r.identity.executionId ≠ b.identity.executionId
      || r.identity.rootRunId ≠ b.identity.rootRunId)
    (protocolError "provider call identity crosses the run bundle boundary")
  raiseIf (ownerAttempt b.identity b.children r.identity.ownerRunId).isNone
    (protocolError "provider call owner is absent from run topology")
  raiseIf (some r.identity.attemptId ≠ ownerAttempt b.identity b.children r.identity.ownerRunId)
    (protocolError "provider call attempt disagrees with its owner topology")

def checkEvent (e : RunMetricEvent) : Except PyError Unit := do
  raiseIf (e.executionId ≠ b.identity.executionId || e.rootRunId ≠ b.identity.rootRunId)
    (protocolError "metric event identity crosses the run bundle boundary")
  raiseIf (ownerAttempt b.identity b.children e.ownerRunId).isNone
    (protocolError "metric event owner is absent from run topology")
  raiseIf (some e.attemptId ≠ ownerAttempt b.identity b.children e.ownerRunId)
    (protocolError "metric event attempt disagrees with its owner topology")
  raiseIf (e.parentRunId ≠ ownerParent b.identity b.children e.ownerRunId)
    (protocolError "metric event parent disagrees with its owner topology")

def checkCounters : Except PyError Unit := do
  let direct ← RunMetricCounters.fromEvents
    (b.metrics.events.filter fun e => e.ownerRunId = b.identity.runId)
  let descendant ← RunMetricCounters.fromEvents
    (b.metrics.events.filter fun e => e.ownerRunId ≠ b.identity.runId)
  raiseIf (b.metrics.direct ≠ direct || b.metrics.descendant ≠ descendant)
    (protocolError "direct or descendant metric counters disagree with events")

/-- `model_attempt_events`: the attempts by the call they are about. -/
def modelAttempts (events : List RunMetricEvent) : List (String × RunMetricEvent) :=
  (events.filter fun e => e.kind = .modelAttempt).foldl (fun m e => Assoc.set e.subjectId e m) []

/-- `set(xs) == set(ys)`. -/
def sameSet (xs ys : List String) : Bool := xs.all (ys.contains ·) && ys.all (xs.contains ·)

variable (receipts : List ProviderCallReceipt)

def callIds : List String :=
  receipts.map ProviderCallReceipt.providerCallId

def checkAttempts : Except PyError Unit := do
  let attempts := modelAttempts b.metrics.events
  raiseIf (!sameSet (Assoc.keys attempts) (callIds b.providerCalls))
    (protocolError "model attempt metric events must match provider receipts exactly")
  b.providerCalls.forM fun r =>
    raiseIf ((Assoc.get r.providerCallId attempts).any fun e => e.outcome.name ≠ r.status.name)
      (protocolError "model attempt metric outcome disagrees with provider receipt")

def directCalls (runId : String) (receipts : List ProviderCallReceipt) : List ProviderCallReceipt :=
  receipts.filter fun r => r.identity.ownerRunId = runId

def descendantCalls (runId : String) (receipts : List ProviderCallReceipt) :
    List ProviderCallReceipt :=
  receipts.filter fun r => r.identity.ownerRunId ≠ runId

def sumUsage : Except PyError ProviderCallUsage :=
  ProviderCallUsage.sum host (receipts.map ProviderCallReceipt.usage)

def checkAggregation : Except PyError Unit := do
  let direct := directCalls b.identity.runId b.providerCalls
  let descendant := descendantCalls b.identity.runId b.providerCalls
  raiseIf (!sameSet b.aggregation.directCallIds (callIds direct)
      || !sameSet b.aggregation.descendantCallIds (callIds descendant)
      || !sameSet b.aggregation.allCallIds (callIds b.providerCalls))
    (protocolError "aggregation call sets disagree with provider receipts")
  let directUsage ← sumUsage host direct
  let descendantUsage ← sumUsage host descendant
  let allUsage ← sumUsage host b.providerCalls
  raiseIf (b.aggregation.directUsage ≠ directUsage || b.aggregation.descendantUsage ≠ descendantUsage
      || b.aggregation.allUsage ≠ allUsage)
    (protocolError "aggregation usage disagrees with provider receipts")

def checkTotals : Except PyError Unit := do
  let coverage ← UsageCoverage.fromReceipts host b.providerCalls
  let cost ← RunCost.fromReceipts host b.providerCalls
  raiseIf (b.coverage ≠ coverage || b.cost ≠ cost)
    (protocolError "bundle coverage or cost disagrees with provider receipts")

/-- `by_id[call_id]`. -/
def callById (id : String) : Option ProviderCallReceipt :=
  receipts.find? fun r => r.providerCallId = id

def checkSlice (s : UsageSlice) : Except PyError Unit := do
  let receipts := s.callIds.filterMap (callById b.providerCalls)
  raiseIf (receipts.any fun r =>
      (r.provider, r.model, r.serviceTier) ≠ (s.provider, s.model, s.serviceTier))
    (protocolError "usage slice provider identity disagrees")
  let usage ← sumUsage host receipts
  let coverage ← UsageCoverage.fromReceipts host receipts
  let cost ← RunCost.fromReceipts host receipts
  raiseIf (s.usage ≠ usage || s.coverage ≠ coverage || s.cost ≠ cost)
    (protocolError "usage slice metrics disagree with provider receipts")

def checkSlices : Except PyError Unit := do
  let sliced := b.usageSlices.flatMap UsageSlice.callIds
  raiseIf (!decide sliced.Nodup || !sameSet sliced (callIds b.providerCalls))
    (protocolError "usage slices must partition provider calls exactly once")
  b.usageSlices.forM (checkSlice host b)

def checkEvidence : Except PyError Unit := do
  let evidence ← RunEvidence.fromReceipts host b.providerCalls
  raiseIf (b.evidence ≠ evidence) (protocolError "bundle evidence disagrees with provider receipts")

/-- Whether some usage could be attributed only in part. -/
def containsLegacy : Bool :=
  receipts.any fun r => r.usage.source = .legacyPartial

/-- `_validate_projection`. -/
def validateProjection : Except PyError Unit := do
  checkTopology host b.identity b.children
  b.providerCalls.forM (checkCall b)
  b.metrics.events.forM (checkEvent b)
  checkCounters b
  checkAttempts b
  checkAggregation host b
  checkTotals host b
  checkSlices host b
  checkEvidence host b
  raiseIf (containsLegacy b.providerCalls ≠ decide (b.legacy.status = .legacyPartial))
    (protocolError "legacy attribution disagrees with provider receipts")

end Validation

/-! ### The wire format -/

def schema : String := "unchain.run_bundle.v1"

/-- The totals of a bundle, as they stand in its record. -/
structure Totals where
  directMetrics : Value
  descendantMetrics : Value
  allMetrics : Value
  directUsage : Value
  descendantUsage : Value
  allUsage : Value
  /-- Usage, coverage and cost of each slice. -/
  slices : List (Value × Value × Value)
  coverage : Value
  cost : Value
  evidence : Value

def totals (b : RunBundle) : Totals where
  directMetrics := b.metrics.direct.toDict
  descendantMetrics := b.metrics.descendant.toDict
  allMetrics := b.metrics.all.toDict
  directUsage := b.aggregation.directUsage.toDict
  descendantUsage := b.aggregation.descendantUsage.toDict
  allUsage := b.aggregation.allUsage.toDict
  slices := b.usageSlices.map fun s => (s.usage.toDict, s.coverage.toDict, s.cost.toDict)
  coverage := b.coverage.toDict
  cost := b.cost.toDict
  evidence := b.evidence.toDict

/-- `_body_dict`. -/
def bodyDict (b : RunBundle) : Dict :=
  [("schema", .str schema), ("bundle_id", .str b.bundleId), ("revision", natValue b.revision),
    ("identity", b.identity.toDict), ("lifecycle", b.lifecycle.toDict),
    ("descriptor", b.descriptor.toDict), ("metrics", b.metrics.toDict),
    ("provider_calls", .list (b.providerCalls.map ProviderCallReceipt.toDict)),
    ("children", .list (b.children.map RunChild.toDict)), ("aggregation", b.aggregation.toDict),
    ("usage_slices", .list (b.usageSlices.map UsageSlice.toDict)),
    ("coverage", b.coverage.toDict), ("cost", b.cost.toDict), ("legacy", b.legacy.toDict),
    ("evidence", b.evidence.toDict), ("extensions", .dict b.extensions)]

/-- `to_dict`. -/
def toDict (b : RunBundle) : Value :=
  .dict [("schema", .str schema), ("bundle_id", .str b.bundleId), ("revision", natValue b.revision),
    ("bundle_digest", .str b.bundleDigest), ("identity", b.identity.toDict),
    ("lifecycle", b.lifecycle.toDict), ("descriptor", b.descriptor.toDict),
    ("metrics", b.metrics.toDict),
    ("provider_calls", .list (b.providerCalls.map ProviderCallReceipt.toDict)),
    ("children", .list (b.children.map RunChild.toDict)), ("aggregation", b.aggregation.toDict),
    ("usage_slices", .list (b.usageSlices.map UsageSlice.toDict)),
    ("coverage", b.coverage.toDict), ("cost", b.cost.toDict), ("legacy", b.legacy.toDict),
    ("evidence", b.evidence.toDict), ("extensions", .dict b.extensions)]

variable (host : BundleHost)

def checkGivenDigest (expected : String) (given : Value) : Except PyError Unit :=
  if given.truthy then do
    let observed ← sha256Field "bundle_digest" given
    raiseIf (observed ≠ expected)
      (protocolError "bundle_digest does not match the canonical bundle body")
  else .ok ()

/-- `RunBundle(...)` on the parts of `b`, whose revision, extensions, id and digest are not looked
at: these are the keyword arguments in `arg`. -/
def make (b : RunBundle) (arg : Value) : Except PyError RunBundle := do
  let revision ← positiveRevision (arg.getD "revision" (.int 1))
  let providerCalls := sortedBy ProviderCallReceipt.providerCallId b.providerCalls
  raiseIf (10000 < providerCalls.length)
    (protocolError "run bundle exceeds the provider receipt limit")
  raiseIf (!decide (callIds providerCalls).Nodup)
    (protocolError "provider call ids must be unique")
  let children := sortedBy RunChild.runId b.children
  raiseIf (!decide (children.map RunChild.runId).Nodup)
    (protocolError "child run ids must be unique")
  let usageSlices := sortedBy UsageSlice.sortKey b.usageSlices
  let extensions ← freezeExtensions host (arg.get "extensions")
  let bundleId ← deterministicBundleId host b.identity
  checkGivenId host "bundle_id" "bundle_id does not match its deterministic identity" bundleId
    (arg.get "bundle_id")
  let bundle : RunBundle :=
    { b with providerCalls, children, usageSlices, revision, extensions, bundleId, bundleDigest := "" }
  validateProjection host bundle
  let digest ← canonicalSha256 host (.dict bundle.bodyDict)
  checkGivenDigest digest (arg.get "bundle_digest")
  let _ ← canonicalBytes host { bundle with bundleDigest := digest }.toDict
  return { bundle with bundleDigest := digest }

def fields : List String :=
  ["schema", "bundle_id", "revision", "bundle_digest", "identity", "lifecycle", "descriptor",
    "metrics", "provider_calls", "children", "aggregation", "usage_slices", "coverage", "cost",
    "legacy", "evidence", "extensions"]

/-- `from_dict`. -/
def fromDict (v : Value) : Except PyError RunBundle := do
  let raw ← strictRecord fields "run bundle" v
  raiseIf (!(raw.get "schema").eqPy (.str schema)) (protocolError "run bundle schema is unsupported")
  let callItems ← exactArray "provider_calls must be an exact array" (raw.get "provider_calls")
  let childItems ← exactArray "children must be an exact array" (raw.get "children")
  let sliceItems ← exactArray "usage_slices must be an exact array" (raw.get "usage_slices")
  let identity ← RunIdentity.fromDict host (raw.get "identity")
  let lifecycle ← RunLifecycle.fromDict host (raw.get "lifecycle")
  let descriptor ← RunDescriptor.fromDict host (raw.get "descriptor")
  let metrics ← RunMetrics.fromDict host (raw.get "metrics")
  let providerCalls ← callItems.mapM (ProviderCallReceipt.fromDict host)
  let children ← childItems.mapM (RunChild.fromDict host)
  let aggregation ← RunAggregation.fromDict host (raw.get "aggregation")
  let usageSlices ← sliceItems.mapM (UsageSlice.fromDict host)
  let coverage ← UsageCoverage.fromDict host (raw.get "coverage")
  let cost ← RunCost.fromDict host (raw.get "cost")
  let legacy ← LegacyAttribution.fromDict host (raw.get "legacy")
  let evidence ← RunEvidence.fromDict host (raw.get "evidence")
  make host ⟨identity, lifecycle, descriptor, metrics, providerCalls, children, aggregation,
    usageSlices, coverage, cost, legacy, evidence, 0, [], "", ""⟩ raw

/-! ### What the constructor makes -/

/-- What the constructor makes of its parts. -/
structure MadeOf (parts : RunBundle) (arg : Value) (b : RunBundle) : Prop where
  revision : positiveRevision (arg.getD "revision" (.int 1)) = .ok b.revision
  few : b.providerCalls.length ≤ 10000
  uniqueCalls : (callIds b.providerCalls).Nodup
  uniqueChildren : (b.children.map RunChild.runId).Nodup
  extensions : freezeExtensions host (arg.get "extensions") = .ok b.extensions
  bundleId : deterministicBundleId host parts.identity = .ok b.bundleId
  givenId : checkGivenId host "bundle_id" "bundle_id does not match its deterministic identity"
    b.bundleId (arg.get "bundle_id") = .ok ()
  valid : validateProjection host { b with bundleDigest := "" } = .ok ()
  digest : canonicalSha256 host (.dict b.bodyDict) = .ok b.bundleDigest
  givenDigest : checkGivenDigest b.bundleDigest (arg.get "bundle_digest") = .ok ()
  bytes : ∃ bytes, canonicalBytes host b.toDict = .ok bytes
  parts : b = { parts with
    providerCalls := sortedBy ProviderCallReceipt.providerCallId parts.providerCalls
    children := sortedBy RunChild.runId parts.children
    usageSlices := sortedBy UsageSlice.sortKey parts.usageSlices
    revision := b.revision, extensions := b.extensions, bundleId := b.bundleId
    bundleDigest := b.bundleDigest }

variable {host}

theorem make_iff {parts : RunBundle} {arg : Value} {b : RunBundle} :
    make host parts arg = .ok b ↔ MadeOf host parts arg b := by
  simp only [make, bind_iff, raiseIf_ok, exists_const, pure_iff]
  constructor
  · rintro ⟨revision, revisionOk, few, uniqueCalls, uniqueChildren, extensions, extensionsOk,
      bundleId, bundleIdOk, _, givenId, _, valid, digest, digestOk, _, givenDigest, bytes, bytesOk,
      rfl⟩
    exact ⟨revisionOk, by simpa using few, by simpa using uniqueCalls, by simpa using uniqueChildren,
      extensionsOk, bundleIdOk, givenId, valid, digestOk, givenDigest, ⟨bytes, bytesOk⟩, rfl⟩
  · rintro ⟨revisionOk, few, uniqueCalls, uniqueChildren, extensionsOk, bundleIdOk, givenId, valid,
      digestOk, givenDigest, ⟨bytes, bytesOk⟩, same⟩
    cases b
    cases same
    exact ⟨_, revisionOk, by simpa using few, by simpa using uniqueCalls,
      by simpa using uniqueChildren, _, extensionsOk, _, bundleIdOk, (), givenId, (), valid,
      _, digestOk, (), givenDigest, bytes, bytesOk, rfl⟩

end RunBundle

end Unchain.Accounting
