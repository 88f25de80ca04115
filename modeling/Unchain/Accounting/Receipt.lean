import Unchain.Accounting.Pricing

/-!
The accounting receipt of one provider call (`ProviderCallReceipt`).
-/

namespace Unchain.Accounting

open Lib Lib.Effect Python

/-! ### Who made the call -/

@[ext] structure ProviderCallIdentity where
  executionId : String
  attemptId : String
  rootRunId : String
  ownerRunId : String
  parentRunId : Option String
  iteration : Nat
  retryOrdinal : Nat
  purpose : String
  requestSha256 : String
  route : String
deriving DecidableEq

namespace ProviderCallIdentity

def toDict (i : ProviderCallIdentity) : Value :=
  .dict [("execution_id", .str i.executionId), ("attempt_id", .str i.attemptId),
    ("root_run_id", .str i.rootRunId), ("owner_run_id", .str i.ownerRunId),
    ("parent_run_id", optionalValue .str i.parentRunId), ("iteration", natValue i.iteration),
    ("retry_ordinal", natValue i.retryOrdinal), ("purpose", .str i.purpose),
    ("request_sha256", .str i.requestSha256), ("route", .str i.route)]

def fields : List String :=
  ["execution_id", "attempt_id", "root_run_id", "owner_run_id", "parent_run_id", "iteration",
    "retry_ordinal", "purpose", "request_sha256", "route"]

variable (host : BundleHost)

def make (arg : Value) : Except PyError ProviderCallIdentity := do
  let executionId ← canonicalText host 256 "execution_id" (arg.get "execution_id")
  let attemptId ← canonicalText host 256 "attempt_id" (arg.get "attempt_id")
  let rootRunId ← canonicalText host 256 "root_run_id" (arg.get "root_run_id")
  let ownerRunId ← canonicalText host 256 "owner_run_id" (arg.get "owner_run_id")
  let parentRunId ← optionalText host 256 "parent_run_id" (arg.get "parent_run_id")
  let iteration ← count "iteration" (arg.get "iteration")
  let retryOrdinal ← count "retry_ordinal" (arg.get "retry_ordinal")
  let purpose ← slug host "purpose" (arg.get "purpose")
  let requestSha256 ← sha256Field "request_sha256" (arg.get "request_sha256")
  let route ← slug host "route" (arg.get "route")
  raiseIf (ownerRunId = rootRunId && parentRunId.isSome)
    (protocolError "root provider calls cannot have parent_run_id")
  raiseIf (ownerRunId ≠ rootRunId && parentRunId.isNone)
    (protocolError "child provider calls require parent_run_id")
  return ⟨executionId, attemptId, rootRunId, ownerRunId, parentRunId, iteration, retryOrdinal,
    purpose, requestSha256, route⟩

def fromDict (v : Value) : Except PyError ProviderCallIdentity := do
  let raw ← strictRecord fields "provider call identity" v
  make host raw

def Constructed (i : ProviderCallIdentity) : Prop := ∃ arg, make host arg = .ok i

variable {host}

theorem fromDict_toDict {i : ProviderCallIdentity} (made : i.Constructed host) :
    fromDict host i.toDict = .ok i := by
  obtain ⟨arg, h⟩ := made
  simp only [make, bind_iff, raiseIf_ok, exists_const, pure_iff] at h
  obtain ⟨execution, executionOk, attempt, attemptOk, root, rootOk, owner, ownerOk,
    parent, parentOk, iteration, iterationOk, retry, retryOk, purpose, purposeOk,
    request, requestOk, route, routeOk, ofRoot, ofChild, rfl⟩ := h
  simp only [fromDict, make, bind_iff, raiseIf_ok, exists_const, pure_iff]
  exact ⟨_, strictRecord_of_keys rfl, execution, canonicalText_again executionOk,
    attempt, canonicalText_again attemptOk, root, canonicalText_again rootOk,
    owner, canonicalText_again ownerOk, parent, optionalText_again parentOk,
    iteration, count_again iterationOk, retry, count_again retryOk, purpose, slug_again purposeOk,
    request, sha256Field_again requestOk, route, slug_again routeOk, ofRoot, ofChild, rfl⟩

end ProviderCallIdentity

/-- `deterministic_provider_call_id`. -/
def deterministicProviderCallId (host : BundleHost) (identity : ProviderCallIdentity)
    (provider model : String) : Except PyError String := do
  let providerName ← slug host "provider" (.str provider)
  let modelName ← canonicalText host 256 "model" (.str model)
  let digest ← canonicalSha256 host (.dict [("domain", .str "unchain.provider_call_id.v1"),
    ("identity", identity.toDict), ("provider", .str providerName), ("model", .str modelName)])
  return "pc_" ++ digest

/-! ### When, under which ids and how it is billed -/

@[ext] structure ProviderCallTiming where
  startedAt : Option String
  completedAt : Option String
deriving DecidableEq

namespace ProviderCallTiming

def toDict (t : ProviderCallTiming) : Value :=
  .dict [("started_at", optionalValue .str t.startedAt),
    ("completed_at", optionalValue .str t.completedAt)]

/-- Whether the second of two known timestamps is earlier than the first. -/
def reversed (startedAt completedAt : Option String) : Bool :=
  match startedAt, completedAt with
  | some start, some stop => instant stop < instant start
  | _, _ => false

variable (host : BundleHost)

def make (arg : Value) : Except PyError ProviderCallTiming := do
  let startedAt ← optionalTimestamp host "provider call started_at" (arg.get "started_at")
  let completedAt ← optionalTimestamp host "provider call completed_at" (arg.get "completed_at")
  raiseIf (completedAt.isSome && startedAt.isNone)
    (protocolError "provider call completed_at requires started_at")
  raiseIf (reversed startedAt completedAt)
    (protocolError "provider call completed_at precedes started_at")
  return ⟨startedAt, completedAt⟩

def fromDict (v : Value) : Except PyError ProviderCallTiming := do
  let raw ← strictRecord ["started_at", "completed_at"] "provider call timing" v
  make host raw

def Constructed (t : ProviderCallTiming) : Prop := ∃ arg, make host arg = .ok t

variable {host}

theorem fromDict_toDict {t : ProviderCallTiming} (made : t.Constructed host) :
    fromDict host t.toDict = .ok t := by
  obtain ⟨arg, h⟩ := made
  simp only [make, bind_iff, raiseIf_ok, exists_const, pure_iff] at h
  obtain ⟨start, startOk, stop, stopOk, both, ordered, rfl⟩ := h
  simp only [fromDict, make, bind_iff, raiseIf_ok, exists_const, pure_iff]
  exact ⟨_, strictRecord_of_keys rfl, start, optionalTimestamp_again startOk,
    stop, optionalTimestamp_again stopOk, both, ordered, rfl⟩

end ProviderCallTiming

@[ext] structure ProviderCallIds where
  requestIdSha256 : Option String
  responseIdSha256 : Option String
deriving DecidableEq

namespace ProviderCallIds

def toDict (ids : ProviderCallIds) : Value :=
  .dict [("request_id_sha256", optionalValue .str ids.requestIdSha256),
    ("response_id_sha256", optionalValue .str ids.responseIdSha256)]

def make (arg : Value) : Except PyError ProviderCallIds := do
  let requestId ← optionalSha256 "provider request_id_sha256" (arg.get "request_id_sha256")
  let responseId ← optionalSha256 "provider response_id_sha256" (arg.get "response_id_sha256")
  return ⟨requestId, responseId⟩

def fromDict (v : Value) : Except PyError ProviderCallIds := do
  let raw ← strictRecord ["request_id_sha256", "response_id_sha256"] "provider call ids" v
  make raw

def Constructed (ids : ProviderCallIds) : Prop := ∃ arg, make arg = .ok ids

theorem fromDict_toDict {ids : ProviderCallIds} (made : ids.Constructed) :
    fromDict ids.toDict = .ok ids := by
  obtain ⟨arg, h⟩ := made
  simp only [make, bind_iff, pure_iff] at h
  obtain ⟨request, requestOk, response, responseOk, rfl⟩ := h
  simp only [fromDict, make, bind_iff, pure_iff]
  exact ⟨_, strictRecord_of_keys rfl, request, optionalSha256_again requestOk,
    response, optionalSha256_again responseOk, rfl⟩

end ProviderCallIds

@[ext] structure ProviderBillingDimensions where
  billingSurface : Option String
  batch : Option Bool
  inferenceGeo : Option String
deriving DecidableEq

namespace ProviderBillingDimensions

def toDict (d : ProviderBillingDimensions) : Value :=
  .dict [("billing_surface", optionalValue .str d.billingSurface),
    ("batch", optionalValue .bool d.batch), ("inference_geo", optionalValue .str d.inferenceGeo)]

variable (host : BundleHost)

def make (arg : Value) : Except PyError ProviderBillingDimensions := do
  let billingSurface ← optionalSlug host "billing_surface" (arg.get "billing_surface")
  let batch ← optionalBool (.typeError "billing batch must be an exact boolean or null")
    (arg.get "batch")
  let inferenceGeo ← optionalSlug host "inference_geo" (arg.get "inference_geo")
  return ⟨billingSurface, batch, inferenceGeo⟩

def fromDict (v : Value) : Except PyError ProviderBillingDimensions := do
  let raw ← strictRecord ["billing_surface", "batch", "inference_geo"]
    "provider billing dimensions" v
  make host raw

def Constructed (d : ProviderBillingDimensions) : Prop := ∃ arg, make host arg = .ok d

variable {host}

theorem fromDict_toDict {d : ProviderBillingDimensions} (made : d.Constructed host) :
    fromDict host d.toDict = .ok d := by
  obtain ⟨arg, h⟩ := made
  simp only [make, bind_iff, pure_iff] at h
  obtain ⟨surface, surfaceOk, batch, batchOk, geo, geoOk, rfl⟩ := h
  simp only [fromDict, make, bind_iff, pure_iff]
  exact ⟨_, strictRecord_of_keys rfl, surface, optionalSlug_again surfaceOk,
    batch, optionalBool_again batchOk, geo, optionalSlug_again geoOk, rfl⟩

end ProviderBillingDimensions

/-! ### The receipt -/

/-- `_RECEIPT_STATUSES`. -/
inductive ReceiptStatus where
  | completed
  | failed
  | uncertain
deriving DecidableEq

namespace ReceiptStatus

def name : ReceiptStatus → String
  | completed => "completed"
  | failed => "failed"
  | uncertain => "uncertain"

def named (s : String) : Option ReceiptStatus :=
  [completed, failed, uncertain].find? fun x => x.name = s

theorem named_name (x : ReceiptStatus) : named x.name = some x := by
  cases x <;> decide

end ReceiptStatus

@[ext] structure ProviderCallReceipt where
  identity : ProviderCallIdentity
  provider : String
  model : String
  status : ReceiptStatus
  usage : ProviderCallUsage
  serviceTier : Option String
  timing : ProviderCallTiming
  providerIds : ProviderCallIds
  billingDimensions : ProviderBillingDimensions
  rawUsageSha256 : Option String
  pricing : ProviderCallPricing
  extensions : Dict
  providerCallId : String
deriving DecidableEq

namespace ProviderCallReceipt

def schema : String := "unchain.provider_call_usage.v1"

def toDict (r : ProviderCallReceipt) : Value :=
  .dict [("schema", .str schema), ("provider_call_id", .str r.providerCallId),
    ("identity", r.identity.toDict),
    ("provider", .dict [("name", .str r.provider), ("model", .str r.model),
      ("service_tier", optionalValue .str r.serviceTier)]),
    ("status", .str r.status.name), ("timing", r.timing.toDict),
    ("provider_ids", r.providerIds.toDict), ("billing_dimensions", r.billingDimensions.toDict),
    ("usage", r.usage.toDict), ("raw_usage_sha256", optionalValue .str r.rawUsageSha256),
    ("pricing", r.pricing.toDict), ("extensions", .dict r.extensions)]

def foreignSnapshot (provider model : String) (serviceTier : Option String)
    (billing : ProviderBillingDimensions) (snapshot : PricingSnapshotRef) : Bool :=
  snapshot.provider ≠ provider || snapshot.model ≠ model
    || some snapshot.serviceTier ≠ serviceTier
    || some snapshot.billingSurface ≠ billing.billingSurface
    || some snapshot.batch ≠ billing.batch || some snapshot.inferenceGeo ≠ billing.inferenceGeo

variable (host : BundleHost)

/-- `ProviderCallReceipt(...)`. -/
def make (identity : ProviderCallIdentity) (usage : ProviderCallUsage) (timing : ProviderCallTiming)
    (providerIds : ProviderCallIds) (billing : ProviderBillingDimensions)
    (pricing : ProviderCallPricing) (arg : Value) : Except PyError ProviderCallReceipt := do
  let provider ← slug host "provider" (arg.get "provider")
  let model ← canonicalText host 256 "model" (arg.get "model")
  let serviceTier ← optionalSlug host "service_tier" (arg.get "service_tier")
  let status ← enumField host ReceiptStatus.named "provider call status" (arg.get "status")
  raiseIf (status ≠ .uncertain && (timing.startedAt.isNone || timing.completedAt.isNone))
    (protocolError "completed/failed provider call timing requires both boundaries")
  let rawUsageSha256 ← optionalSha256 "raw_usage_sha256" (arg.get "raw_usage_sha256")
  raiseIf (pricing.snapshot.any (foreignSnapshot provider model serviceTier billing))
    (protocolError "pricing snapshot provider/model/tier does not match the receipt")
  let extensions ← freezeExtensions host (arg.get "extensions")
  let expectedId ← deterministicProviderCallId host identity provider model
  checkGivenId host "provider_call_id"
    "provider_call_id does not match its deterministic identity" expectedId
    (arg.get "provider_call_id")
  return ⟨identity, provider, model, status, usage, serviceTier, timing, providerIds, billing,
    rawUsageSha256, pricing, extensions, expectedId⟩

/-- `receipt_sha256`. -/
def receiptSha256 (r : ProviderCallReceipt) : Except PyError String := canonicalSha256 host r.toDict

def fields : List String :=
  ["schema", "provider_call_id", "identity", "provider", "status", "timing", "provider_ids",
    "billing_dimensions", "usage", "raw_usage_sha256", "pricing", "extensions"]

def fromDict (v : Value) : Except PyError ProviderCallReceipt := do
  let raw ← strictRecord fields "provider call receipt" v
  raiseIf (!(raw.get "schema").eqPy (.str schema))
    (protocolError "provider call receipt schema is unsupported")
  let provider ← strictRecord ["name", "model", "service_tier"] "provider identity"
    (raw.get "provider")
  let identity ← ProviderCallIdentity.fromDict host (raw.get "identity")
  let timing ← ProviderCallTiming.fromDict host (raw.get "timing")
  let providerIds ← ProviderCallIds.fromDict (raw.get "provider_ids")
  let billing ← ProviderBillingDimensions.fromDict host (raw.get "billing_dimensions")
  let usage ← ProviderCallUsage.fromDict host (raw.get "usage")
  let pricing ← ProviderCallPricing.fromDict host (raw.get "pricing")
  make host identity usage timing providerIds billing pricing
    (.dict [("provider_call_id", raw.get "provider_call_id"), ("provider", provider.get "name"),
      ("model", provider.get "model"), ("service_tier", provider.get "service_tier"),
      ("status", raw.get "status"), ("raw_usage_sha256", raw.get "raw_usage_sha256"),
      ("extensions", raw.get "extensions")])

/-- What its constructor makes from parts that their constructors made. -/
structure Constructed (r : ProviderCallReceipt) : Prop where
  identity : r.identity.Constructed host
  usage : ∃ args, ProviderCallUsage.make host args = .ok r.usage
  timing : r.timing.Constructed host
  providerIds : r.providerIds.Constructed
  billing : r.billingDimensions.Constructed host
  pricing : r.pricing.Constructed host
  receipt : ∃ arg, make host r.identity r.usage r.timing r.providerIds r.billingDimensions r.pricing
    arg = .ok r

variable {host}

/-- A receipt is read back, if its cache-write total, which its constructor may have filled in, is
within the limit of a counter. -/
theorem fromDict_toDict {r : ProviderCallReceipt} (made : r.Constructed host)
    (write : ∀ n, r.usage.inputCacheWriteTokens = some n → n ≤ maxSafeInteger) :
    fromDict host r.toDict = .ok r := by
  obtain ⟨identity, ⟨args, usage⟩, timing, ids, billing, pricing, arg, h⟩ := made
  have usageAgain := ProviderCallUsage.fromDict_toDict (ProviderCallUsage.made_of_make usage write)
  have identityAgain := ProviderCallIdentity.fromDict_toDict identity
  have timingAgain := ProviderCallTiming.fromDict_toDict timing
  have idsAgain := ProviderCallIds.fromDict_toDict ids
  have billingAgain := ProviderBillingDimensions.fromDict_toDict billing
  have pricingAgain := ProviderCallPricing.fromDict_toDict pricing
  simp only [make, bind_iff, raiseIf_ok, exists_const, pure_iff] at h
  obtain ⟨provider, providerOk, model, modelOk, tier, tierOk, status, statusOk, bounded,
    raw, rawOk, own, extensions, extensionsOk, id, idOk, _, -, same⟩ := h
  obtain ⟨digest, digestOk, rfl⟩ : ∃ digest, isSha256 digest = true ∧ id = "pc_" ++ digest := by
    simp only [deterministicProviderCallId, bind_iff, pure_iff] at idOk
    obtain ⟨_, -, _, -, digest, digestOk, rfl⟩ := idOk
    exact ⟨digest, canonicalSha256_hex digestOk, rfl⟩
  simp only [fromDict, make, bind_iff, raiseIf_ok, exists_const, pure_iff]
  rw [← same]
  exact ⟨_, strictRecord_of_keys rfl, rfl, _, strictRecord_of_keys rfl, _, identityAgain,
    _, timingAgain, _, idsAgain, _, billingAgain, _, usageAgain, _, pricingAgain,
    provider, slug_again providerOk, model, canonicalText_again modelOk,
    tier, optionalSlug_again tierOk, status, enumField_name ReceiptStatus.named_name _ _, bounded,
    raw, optionalSha256_again rawOk, own, extensions, freezeExtensions_again extensionsOk,
    _, idOk, (), checkGivenId_again digestOk (by decide) (by decide), rfl⟩

end ProviderCallReceipt

/-! ### A receipt of a root run -/

def rootCall : ProviderCallIdentity :=
  ⟨"e", "a", "r", "r", none, 0, 0, "p", zeros, "q"⟩

/-- A call whose outcome is not known. -/
def rootReceipt : ProviderCallReceipt :=
  ⟨rootCall, "openai", "m", .uncertain, ProviderCallUsage.empty, none, ⟨none, none⟩, ⟨none, none⟩,
    ⟨none, none, none⟩, none, .unavailable none "n", [], "pc_" ++ zeros⟩

theorem rootReceipt_constructed : rootReceipt.Constructed asciiHost where
  identity := ⟨rootCall.toDict, by decide +kernel⟩
  usage := ⟨rootReceipt.usage.toArgs, by decide +kernel⟩
  timing := ⟨.dict [], by decide +kernel⟩
  providerIds := ⟨.dict [], by decide +kernel⟩
  billing := ⟨.dict [], by decide +kernel⟩
  pricing := ⟨by simp [rootReceipt, ProviderCallPricing.snapshot], .dict [("reason", .str "n")],
    by decide +kernel⟩
  receipt := ⟨.dict [("provider", .str "openai"), ("model", .str "m"),
    ("status", .str "uncertain")], by decide +kernel⟩

end Unchain.Accounting
