import Unchain.Accounting.Metrics
import Unchain.Accounting.Run
import Unchain.Accounting.Totals
import Unchain.Lib.Frames

/-!
The compact projection of a run tree that is too large to be written out (`run_bundle_v2.py`): the
totals stay, and the receipts, events and children are addressed by a reference to their details.
-/

namespace Unchain.Accounting

open Lib Lib.Effect Python

/-- `CompactRunBundleProtocolError`. -/
def compactError (message : String) : PyError := .raised "CompactRunBundleProtocolError" message

def compactMaxCanonicalBytes : Nat := 512 * 1024
def compactMaxDetailsBytes : Nat := 64 * 1024 * 1024

/-- `_safe_digest`. -/
def safeDigest (field : String) : Value → Except PyError String
  | .str s =>
    if isSha256 s then .ok s
    else .error (compactError (field ++ " must be a lowercase SHA-256 digest"))
  | _ => .error (compactError (field ++ " must be a lowercase SHA-256 digest"))

/-- `_count` of the compact bundle, which has no upper limit. -/
def compactCount (field : String) : Value → Except PyError Nat
  | .int n =>
    if n < 0 then .error (compactError (field ++ " must be a non-negative integer"))
    else .ok n.toNat
  | _ => .error (compactError (field ++ " must be a non-negative integer"))

/-- The number of a framed domain's bytes. -/
def bigEndian4 (n : Nat) : Utf8.Bytes :=
  [UInt8.ofNat (n / 2 ^ 24), UInt8.ofNat (n / 2 ^ 16), UInt8.ofNat (n / 2 ^ 8), UInt8.ofNat n]

section Details

variable (host : BundleHost)

/-- `_canonical_bytes` of the compact bundle. -/
def compactBytes (limit : Option Nat) (v : Value) : Except PyError Utf8.Bytes := do
  let encoded ← (canonicalJson host.display v).mapError fun _ =>
    compactError "compact bundle must be canonical JSON"
  raiseIf (limit.any (· < encoded.length))
    (compactError "compact bundle exceeds the canonical byte limit")
  return encoded

/-- `_sha256(_canonical_bytes(value))`. -/
def compactSha256 (v : Value) : Except PyError String := (compactBytes host none v).map host.sha256

theorem compactBytes_of_room {limit : Option Nat} {v : Value}
    (room : v.room.any (fun n => limit.all (n ≤ ·)) = true) :
    ∃ bytes, compactBytes host limit v = .ok bytes := by
  obtain ⟨n, enough, small⟩ := (Option.any_eq_true _ _).mp room
  obtain ⟨bytes, wrote, fits⟩ := @canonicalJson_of_room host.display _ _ enough
  refine ⟨bytes, ?_⟩
  have notLarge : limit.any (· < bytes.length) = false := by
    cases limit with
    | none => rfl
    | some most =>
      have most' : n ≤ most := by simpa using small
      simpa using fits.trans most'
  simp only [compactBytes, wrote, Except.mapError, notLarge, raiseIf, bind, Except.bind]
  rfl

structure DetailsPart where
  name : String
  itemCount : Nat
  canonicalBytes : Nat
  rootSha256 : String
deriving DecidableEq

namespace DetailsPart

def toDict (p : DetailsPart) : Value :=
  .dict [("name", .str p.name), ("item_count", natValue p.itemCount),
    ("canonical_bytes", natValue p.canonicalBytes), ("root_sha256", .str p.rootSha256)]

/-- A part, unless its name is empty or taken. -/
def read (names : List String) (v : Value) : Except PyError DetailsPart := do
  raiseIf (!(v.isDict && ["name", "item_count", "canonical_bytes", "root_sha256"].all v.hasKey
      && v.entries.length = 4))
    (compactError "details part shape is invalid")
  match v.get "name" with
  | .str name =>
    raiseIf (name = "" || names.contains name) (compactError "details part name is invalid")
    let itemCount ← compactCount "part.item_count" (v.get "item_count")
    let bytes ← compactCount "part.canonical_bytes" (v.get "canonical_bytes")
    let root ← safeDigest "part.root_sha256" (v.get "root_sha256")
    return ⟨name, itemCount, bytes, root⟩
  | _ => .error (compactError "details part name is invalid")

/-- The loop over the parts. -/
def readAll : (names : List String) → List Value → Except PyError (List DetailsPart)
  | _, [] => .ok []
  | names, v :: vs => do
    let part ← read names v
    let parts ← readAll (part.name :: names) vs
    return part :: parts

end DetailsPart

/-- `_digest_partition`. -/
def digestPartition (name : String) (items : List Value) : Except PyError DetailsPart := do
  let encoded ← items.mapM (compactBytes host none)
  let domain := Utf8.encode name.toList
  let raw := bigEndian4 domain.length ++ domain ++ Frames.framed encoded
  raiseIf (compactMaxDetailsBytes < raw.length)
    (compactError "compact bundle details exceed the durable limit")
  return ⟨name, items.length, raw.length, host.sha256 raw⟩

/-- `CompactRunBundleDetailsRef`. -/
structure DetailsRef where
  detailsId : String
  factsDigest : String
  totalBytes : Nat
  parts : List DetailsPart
deriving DecidableEq

namespace DetailsRef

def schema : String := "unchain.run_bundle_details_ref.v1"

def toDict (d : DetailsRef) : Value :=
  .dict [("schema", .str schema), ("details_id", .str d.detailsId),
    ("facts_digest", .str d.factsDigest), ("total_bytes", natValue d.totalBytes),
    ("parts", .list (d.parts.map DetailsPart.toDict))]

/-- The id of the details starts with `rbd_`. -/
def readId : Value → Except PyError String
  | .str s => if startsWith s "rbd_" then .ok s else .error (compactError "details_id is invalid")
  | _ => .error (compactError "details_id is invalid")

/-- `CompactRunBundleDetailsRef(parts=parts, ...)`. -/
def make (parts : List Value) (arg : Value) : Except PyError DetailsRef := do
  let detailsId ← readId (arg.get "details_id")
  let factsDigest ← safeDigest "facts_digest" (arg.get "facts_digest")
  let totalBytes ← compactCount "total_bytes" (arg.get "total_bytes")
  raiseIf (compactMaxDetailsBytes < totalBytes)
    (compactError "details total bytes exceed the durable limit")
  raiseIf (parts.isEmpty || 8 < parts.length) (compactError "details parts are invalid")
  let parts ← DetailsPart.readAll [] parts
  return ⟨detailsId, factsDigest, totalBytes, parts⟩

end DetailsRef

/-! ### The summaries -/

def setSummary (texts : List String) : Except PyError Value := do
  let digest ← compactSha256 host (.list ((sortedBy id texts).map .str))
  return .dict [("count", natValue texts.length), ("set_sha256", .str digest)]

def coverageSummary (c : UsageCoverage) : Except PyError Value := do
  let missing ← setSummary host c.missingUsageCallIds
  return .dict (Assoc.set "missing_usage_call_ids" missing c.toDict.entries)

def costSummary (c : RunCost) : Except PyError Value := do
  let snapshots ← setSummary host c.pricingSnapshotIds
  return .dict (Assoc.set "pricing_snapshot_ids" snapshots c.toDict.entries)

variable (receipts : List ProviderCallReceipt)

/-- `_summary_usage`. -/
def summaryUsage : Except PyError Value := do
  let usage ← ProviderCallUsage.sum host (receipts.map ProviderCallReceipt.usage)
  return usage.toDict

/-- `_summary_coverage`. -/
def summaryCoverage : Except PyError Value := do
  let coverage ← UsageCoverage.fromReceipts host receipts
  coverageSummary host coverage

/-- `_summary_cost`. -/
def summaryCost : Except PyError Value := do
  let cost ← RunCost.fromReceipts host receipts
  costSummary host cost

def listedSnapshotIds : List String :=
  receipts.filterMap fun r => r.pricing.snapshot.map PricingSnapshotRef.snapshotId

/-- `_summary_evidence`. -/
def summaryEvidence : Except PyError Value := do
  let digests ← receipts.mapM (ProviderCallReceipt.receiptSha256 host)
  let receiptIds ← setSummary host digests
  let rawIds ← setSummary host (receipts.filterMap ProviderCallReceipt.rawUsageSha256)
  let pricingIds ← setSummary host (listedSnapshotIds receipts)
  return .dict [("receipt_sha256s", receiptIds), ("raw_usage_sha256s", rawIds),
    ("pricing_snapshot_ids", pricingIds)]

end Details

/-! ### The bundle -/

structure CompactRunBundle where
  identity : RunIdentity
  lifecycle : RunLifecycle
  descriptor : RunDescriptor
  revision : Nat
  providerCallCount : Nat
  directProviderCallCount : Nat
  descendantProviderCallCount : Nat
  aggregationUsage : Value
  directUsage : Value
  descendantUsage : Value
  metrics : Value
  coverage : Value
  cost : Value
  legacy : Value
  evidence : Value
  children : Value
  detailsRef : DetailsRef
  extensions : Dict
  bundleId : String
  bundleDigest : String

namespace CompactRunBundle

def schema : String := "unchain.run_bundle.v2"
def factsAlgorithm : String := "run_bundle_facts_digest.v1"

/-- `_body_dict`. -/
def bodyDict (b : CompactRunBundle) : Dict :=
  [("schema", .str schema), ("bundle_id", .str b.bundleId), ("revision", natValue b.revision),
    ("identity", b.identity.toDict), ("lifecycle", b.lifecycle.toDict),
    ("descriptor", b.descriptor.toDict), ("provider_call_count", natValue b.providerCallCount),
    ("direct_provider_call_count", natValue b.directProviderCallCount),
    ("descendant_provider_call_count", natValue b.descendantProviderCallCount),
    ("aggregation_usage", b.aggregationUsage), ("direct_usage", b.directUsage),
    ("descendant_usage", b.descendantUsage), ("metrics", b.metrics), ("coverage", b.coverage),
    ("cost", b.cost), ("legacy", b.legacy), ("evidence", b.evidence), ("children", b.children),
    ("details_ref", b.detailsRef.toDict), ("extensions", .dict b.extensions)]

/-- `to_dict`. -/
def toDict (b : CompactRunBundle) : Value :=
  .dict (b.bodyDict ++ [("bundle_digest", .str b.bundleDigest)])

variable (host : BundleHost)

def readRevision : Value → Except PyError Nat
  | .int n => if n ≤ 0 then .error (compactError "revision must be positive") else .ok n.toNat
  | _ => .error (compactError "revision must be positive")

def readBundleId : Value → Except PyError String
  | .str s => if s = "" then .error (compactError "bundle_id is invalid") else .ok s
  | _ => .error (compactError "bundle_id is invalid")

/-- `CompactRunBundle(...)`, whose other arguments are in `arg`. -/
def make (identity : RunIdentity) (lifecycle : RunLifecycle) (descriptor : RunDescriptor)
    (details : DetailsRef) (arg : Value) : Except PyError CompactRunBundle := do
  let revision ← readRevision (arg.get "revision")
  let calls ← compactCount "provider_call_count" (arg.get "provider_call_count")
  let direct ← compactCount "direct_provider_call_count" (arg.get "direct_provider_call_count")
  let descendant ← compactCount "descendant_provider_call_count"
    (arg.get "descendant_provider_call_count")
  raiseIf (direct + descendant ≠ calls)
    (compactError "provider call counts do not partition the total")
  raiseIf (!(arg.get "extensions").isDict) (.typeError "extensions must be an exact object")
  let bundleId ← readBundleId (arg.get "bundle_id")
  let digest ← safeDigest "bundle_digest" (arg.get "bundle_digest")
  let bundle : CompactRunBundle := ⟨identity, lifecycle, descriptor, revision, calls, direct,
    descendant, arg.get "aggregation_usage", arg.get "direct_usage", arg.get "descendant_usage",
    arg.get "metrics", arg.get "coverage", arg.get "cost", arg.get "legacy", arg.get "evidence",
    arg.get "children", details, (arg.get "extensions").entries, bundleId, digest⟩
  let canonical ← compactBytes host (some compactMaxCanonicalBytes) (.dict bundle.bodyDict)
  raiseIf (host.sha256 canonical ≠ digest)
    (compactError "bundle_digest does not match compact body")
  let _ ← compactBytes host (some compactMaxCanonicalBytes) bundle.toDict
  return bundle

/-- What the digest of the facts is made of. -/
def factsBody (identity : RunIdentity) (lifecycle : RunLifecycle) (descriptor : RunDescriptor)
    (revision : Value) (parts : List DetailsPart) : Value :=
  .dict [("algorithm", .str factsAlgorithm), ("identity", identity.toDict),
    ("lifecycle", lifecycle.toDict), ("descriptor", descriptor.toDict), ("revision", revision),
    ("parts", .list (parts.map DetailsPart.toDict))]

/-- The facts as they are kept apart from the bundle. -/
structure Details where
  providerCalls : List Value
  metricEvents : List Value
  children : List Value

def digestDetails (d : Details) : Except PyError (List DetailsPart) := do
  let calls ← digestPartition host "provider_calls" d.providerCalls
  let events ← digestPartition host "metric_events" d.metricEvents
  let children ← digestPartition host "children" d.children
  return [calls, events, children]

def summaryMetrics (runId : String) (events : List RunMetricEvent) : Except PyError Value := do
  let digest ← compactSha256 host (.list (events.map RunMetricEvent.toDict))
  let direct ← RunMetricCounters.fromEvents (events.filter fun e => e.ownerRunId = runId)
  let descendant ← RunMetricCounters.fromEvents (events.filter fun e => e.ownerRunId ≠ runId)
  let all ← RunMetricCounters.fromEvents events
  return .dict [("algorithm", .str RunMetrics.algorithm), ("event_count", natValue events.length),
    ("event_set_sha256", .str digest), ("direct", direct.toDict),
    ("descendant", descendant.toDict), ("all", all.toDict)]

/-- What is given besides the facts. -/
structure Args where
  identity : RunIdentity
  lifecycle : RunLifecycle
  descriptor : RunDescriptor
  revision : Value
  extensions : Option Dict

/-- `from_facts`. -/
def fromFacts (args : Args) (receipts : List ProviderCallReceipt) (metricEvents : List RunMetricEvent)
    (children : List RunChild) : Except PyError (CompactRunBundle × Details) := do
  let runId := args.identity.runId
  let receipts := sortedBy ProviderCallReceipt.providerCallId receipts
  let events := sortedBy RunMetricEvent.metricEventId metricEvents
  let children := sortedBy RunChild.runId children
  let direct := receipts.filter fun r => r.identity.ownerRunId = runId
  let descendant := receipts.filter fun r => r.identity.ownerRunId ≠ runId
  let details : Details := ⟨receipts.map ProviderCallReceipt.toDict,
    events.map RunMetricEvent.toDict, children.map RunChild.toDict⟩
  let parts ← digestDetails host details
  let factsDigest ← compactSha256 host
    (factsBody args.identity args.lifecycle args.descriptor args.revision parts)
  let detailsRef ← DetailsRef.make (parts.map DetailsPart.toDict)
    (.dict [("details_id", .str ("rbd_" ++ factsDigest)), ("facts_digest", .str factsDigest),
      ("total_bytes", natValue (parts.map DetailsPart.canonicalBytes).sum)])
  let childrenDigest ← compactSha256 host (.list details.children)
  let metrics ← summaryMetrics host runId events
  let allUsage ← summaryUsage host receipts
  let directUsage ← summaryUsage host direct
  let descendantUsage ← summaryUsage host descendant
  let coverage ← summaryCoverage host receipts
  let cost ← summaryCost host receipts
  let evidence ← summaryEvidence host receipts
  let bundleId ← deterministicBundleId host args.identity
  let body : Dict := [("schema", .str schema), ("bundle_id", .str bundleId),
    ("revision", args.revision), ("identity", args.identity.toDict),
    ("lifecycle", args.lifecycle.toDict), ("descriptor", args.descriptor.toDict),
    ("provider_call_count", natValue receipts.length),
    ("direct_provider_call_count", natValue direct.length),
    ("descendant_provider_call_count", natValue descendant.length),
    ("aggregation_usage", allUsage), ("direct_usage", directUsage),
    ("descendant_usage", descendantUsage), ("metrics", metrics), ("coverage", coverage),
    ("cost", cost), ("legacy", .dict [("status", .str
      (if receipts.any fun r => r.usage.source = .legacyPartial then "legacy_partial"
        else "canonical"))]),
    ("evidence", evidence),
    ("children", .dict [("count", natValue children.length), ("set_sha256", .str childrenDigest)]),
    ("details_ref", detailsRef.toDict), ("extensions", .dict (args.extensions.getD []))]
  let canonical ← compactBytes host (some compactMaxCanonicalBytes) (.dict body)
  let bundle ← make host args.identity args.lifecycle args.descriptor detailsRef
    (.dict (body ++ [("bundle_digest", .str (host.sha256 canonical))]))
  return (bundle, details)

end CompactRunBundle

end Unchain.Accounting
