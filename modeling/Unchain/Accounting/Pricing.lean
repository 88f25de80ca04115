import Unchain.Accounting.Canonical
import Unchain.Accounting.Timestamps
import Unchain.Accounting.Usage

/-!
The price list entry that a call was priced with (`PricingSnapshotRef`), and what came of it
(`ProviderCallPricing`).

Here and in the modules of the other records, a constructor takes the keyword arguments that are
not records themselves as a dictionary, and `fromDict` calls it as the source does.
-/

namespace Unchain.Accounting

open Lib Lib.Effect Python

def positiveCount (field : String) (v : Value) : Except PyError Nat := do
  let n ← count field v
  raiseIf (n = 0) (protocolError (field ++ " must be positive when present"))
  return n

/-- `text.startswith(start)`. -/
def startsWith (text start : String) : Bool := start.toList.isPrefixOf text.toList

/-- The rates of a snapshot, in nano-USD per million tokens. -/
@[ext] structure PricingRates where
  inputUncached : Option Nat
  inputCacheRead : Option Nat
  inputCacheWrite : Option Nat
  inputCacheWrite5m : Option Nat
  inputCacheWrite1h : Option Nat
  output : Option Nat
deriving DecidableEq

@[ext] structure LongContextRule where
  thresholdInputTokens : Nat
  inputMultiplierPpm : Nat
  outputMultiplierPpm : Nat
deriving DecidableEq

@[ext] structure PricingSnapshotRef where
  catalogVersion : String
  catalogSha256 : String
  sourceUrl : String
  sourceSha256 : String
  effectiveFrom : String
  effectiveUntil : Option String
  provider : String
  billingSurface : String
  model : String
  serviceTier : String
  batch : Bool
  inferenceGeo : String
  rates : PricingRates
  longContext : Option LongContextRule
  snapshotId : String
deriving DecidableEq

namespace PricingRates

def toDict (rates : PricingRates) : Dict :=
  [("input_uncached_nano_usd_per_million", optionalValue natValue rates.inputUncached),
    ("input_cache_read_nano_usd_per_million", optionalValue natValue rates.inputCacheRead),
    ("input_cache_write_nano_usd_per_million", optionalValue natValue rates.inputCacheWrite),
    ("input_cache_write_5m_nano_usd_per_million", optionalValue natValue rates.inputCacheWrite5m),
    ("input_cache_write_1h_nano_usd_per_million", optionalValue natValue rates.inputCacheWrite1h),
    ("output_nano_usd_per_million", optionalValue natValue rates.output)]

def fields : List String :=
  ["input_uncached_nano_usd_per_million", "input_cache_read_nano_usd_per_million",
    "input_cache_write_nano_usd_per_million", "input_cache_write_5m_nano_usd_per_million",
    "input_cache_write_1h_nano_usd_per_million", "output_nano_usd_per_million"]

def make (arg : Value) : Except PyError PricingRates := do
  let read (field : String) := optionalCount field (arg.get field)
  let inputUncached ← read "input_uncached_nano_usd_per_million"
  let inputCacheRead ← read "input_cache_read_nano_usd_per_million"
  let inputCacheWrite ← read "input_cache_write_nano_usd_per_million"
  let inputCacheWrite5m ← read "input_cache_write_5m_nano_usd_per_million"
  let inputCacheWrite1h ← read "input_cache_write_1h_nano_usd_per_million"
  let output ← read "output_nano_usd_per_million"
  return ⟨inputUncached, inputCacheRead, inputCacheWrite, inputCacheWrite5m, inputCacheWrite1h,
    output⟩

end PricingRates

namespace LongContextRule

/-- The rule as the constructor's keyword arguments. -/
def toArgs : Option LongContextRule → Dict
  | none =>
    [("long_context_threshold_input_tokens", .none), ("long_context_input_multiplier_ppm", .none),
      ("long_context_output_multiplier_ppm", .none)]
  | some rule =>
    [("long_context_threshold_input_tokens", natValue rule.thresholdInputTokens),
      ("long_context_input_multiplier_ppm", natValue rule.inputMultiplierPpm),
      ("long_context_output_multiplier_ppm", natValue rule.outputMultiplierPpm)]

def toDict (rule : LongContextRule) : Value :=
  .dict [("threshold_input_tokens", natValue rule.thresholdInputTokens),
    ("input_multiplier_ppm", natValue rule.inputMultiplierPpm),
    ("output_multiplier_ppm", natValue rule.outputMultiplierPpm)]

/-- The keyword arguments in a rule's record. -/
def readArgs : Value → Except PyError Dict
  | .none => .ok (toArgs none)
  | v => do
    let rule ← strictRecord
      ["threshold_input_tokens", "input_multiplier_ppm", "output_multiplier_ppm"]
      "long-context pricing rule" v
    return [("long_context_threshold_input_tokens", rule.get "threshold_input_tokens"),
      ("long_context_input_multiplier_ppm", rule.get "input_multiplier_ppm"),
      ("long_context_output_multiplier_ppm", rule.get "output_multiplier_ppm")]

def make (arg : Value) : Except PyError (Option LongContextRule) := do
  let threshold := arg.get "long_context_threshold_input_tokens"
  let input := arg.get "long_context_input_multiplier_ppm"
  let output := arg.get "long_context_output_multiplier_ppm"
  if threshold.isNone && input.isNone && output.isNone then
    return none
  else do
    raiseIf (threshold.isNone || input.isNone || output.isNone)
      (protocolError "long-context pricing rule must be wholly present or null")
    let thresholdInputTokens ← positiveCount "long_context_threshold_input_tokens" threshold
    let inputMultiplierPpm ← positiveCount "long_context_input_multiplier_ppm" input
    let outputMultiplierPpm ← positiveCount "long_context_output_multiplier_ppm" output
    return some ⟨thresholdInputTokens, inputMultiplierPpm, outputMultiplierPpm⟩

end LongContextRule

namespace PricingSnapshotRef

/-- `_body_dict`. -/
def bodyDict (s : PricingSnapshotRef) : Dict :=
  [("catalog_version", .str s.catalogVersion), ("catalog_sha256", .str s.catalogSha256),
    ("source_url", .str s.sourceUrl), ("source_sha256", .str s.sourceSha256),
    ("effective_from", .str s.effectiveFrom),
    ("effective_until", optionalValue .str s.effectiveUntil), ("currency", .str "USD"),
    ("provider", .str s.provider), ("billing_surface", .str s.billingSurface),
    ("model", .str s.model), ("service_tier", .str s.serviceTier), ("batch", .bool s.batch),
    ("inference_geo", .str s.inferenceGeo), ("rates", .dict s.rates.toDict),
    ("long_context_rule", optionalValue LongContextRule.toDict s.longContext)]

def toDict (s : PricingSnapshotRef) : Value :=
  .dict (("snapshot_id", .str s.snapshotId) :: s.bodyDict)

variable (host : BundleHost)

/-- `PricingSnapshotRef(...)`. -/
def make (arg : Value) : Except PyError PricingSnapshotRef := do
  let catalogVersion ← canonicalText host 256 "catalog_version" (arg.get "catalog_version")
  let catalogSha256 ← sha256Field "catalog_sha256" (arg.get "catalog_sha256")
  let sourceUrl ← canonicalText host 2048 "source_url" (arg.get "source_url")
  raiseIf (!startsWith sourceUrl "https://") (protocolError "source_url must use HTTPS")
  let sourceSha256 ← sha256Field "source_sha256" (arg.get "source_sha256")
  let effectiveFrom ← timestamp host "effective_from" (arg.get "effective_from")
  let effectiveUntil ← optionalTimestamp host "effective_until" (arg.get "effective_until")
  raiseIf (effectiveUntil.any fun stop => instant stop ≤ instant effectiveFrom)
    (protocolError "effective_until must follow effective_from")
  raiseIf (!(arg.getD "currency" (.str "USD")).eqPy (.str "USD"))
    (protocolError "pricing snapshot currency must be USD")
  let provider ← slug host "provider" (arg.get "provider")
  let billingSurface ← slug host "billing_surface" (arg.get "billing_surface")
  let model ← canonicalText host 256 "model" (arg.get "model")
  let serviceTier ← slug host "service_tier" (arg.get "service_tier")
  let batch ← exactBool (.typeError "batch must be an exact boolean") (arg.get "batch")
  let inferenceGeo ← slug host "inference_geo" (arg.get "inference_geo")
  let rates ← PricingRates.make arg
  let longContext ← LongContextRule.make arg
  let snapshot : PricingSnapshotRef :=
    { catalogVersion, catalogSha256, sourceUrl, sourceSha256, effectiveFrom, effectiveUntil,
      provider, billingSurface, model, serviceTier, batch, inferenceGeo, rates, longContext,
      snapshotId := "" }
  let digest ← canonicalSha256 host (.dict snapshot.bodyDict)
  checkGivenId host "snapshot_id" "snapshot_id does not match the immutable pricing snapshot"
    ("price_" ++ digest) (arg.get "snapshot_id")
  return { snapshot with snapshotId := "price_" ++ digest }

def fields : List String :=
  ["snapshot_id", "catalog_version", "catalog_sha256", "source_url", "source_sha256",
    "effective_from", "effective_until", "currency", "provider", "billing_surface", "model",
    "service_tier", "batch", "inference_geo", "rates", "long_context_rule"]

def fromDict (v : Value) : Except PyError PricingSnapshotRef := do
  let raw ← strictRecord fields "pricing snapshot" v
  let rates ← strictRecord PricingRates.fields "pricing rates" (raw.get "rates")
  let longContext ← LongContextRule.readArgs (raw.get "long_context_rule")
  make host (.dict ([("snapshot_id", raw.get "snapshot_id"),
    ("catalog_version", raw.get "catalog_version"), ("catalog_sha256", raw.get "catalog_sha256"),
    ("source_url", raw.get "source_url"), ("source_sha256", raw.get "source_sha256"),
    ("effective_from", raw.get "effective_from"), ("effective_until", raw.get "effective_until"),
    ("currency", raw.get "currency"), ("provider", raw.get "provider"),
    ("billing_surface", raw.get "billing_surface"), ("model", raw.get "model"),
    ("service_tier", raw.get "service_tier"), ("batch", raw.get "batch"),
    ("inference_geo", raw.get "inference_geo")] ++ rates.entries ++ longContext))

def Constructed (s : PricingSnapshotRef) : Prop := ∃ arg, make host arg = .ok s

end PricingSnapshotRef

/-! ### Snapshots are read back -/

section RoundTrip

variable {host : BundleHost}

theorem positiveCount_again {field : String} {v : Value} {n : Nat}
    (h : positiveCount field v = .ok n) : positiveCount field (natValue n) = .ok n := by
  simp only [positiveCount, bind_iff, raiseIf_ok, exists_const, pure_iff] at h ⊢
  obtain ⟨n, read, positive, rfl⟩ := h
  exact ⟨n, count_again read, positive, rfl⟩

theorem PricingRates.make_again {arg : Value} {rates : PricingRates} (h : make arg = .ok rates)
    {arg' : Value} (same : ∀ field ∈ fields, arg'.get field = (Value.dict rates.toDict).get field) :
    make arg' = .ok rates := by
  simp only [fields, List.forall_mem_cons] at same
  simp only [make, bind_iff, pure_iff] at h ⊢
  obtain ⟨a, aOk, b, bOk, c, cOk, d, dOk, e, eOk, f, fOk, rfl⟩ := h
  obtain ⟨a', b', c', d', e', f', -⟩ := same
  rw [a', b', c', d', e', f']
  exact ⟨a, optionalCount_again aOk, b, optionalCount_again bOk, c, optionalCount_again cOk,
    d, optionalCount_again dOk, e, optionalCount_again eOk, f, optionalCount_again fOk, rfl⟩

theorem LongContextRule.make_again {arg : Value} {rule : Option LongContextRule}
    (h : make arg = .ok rule) {arg' : Value}
    (same : ∀ e ∈ toArgs rule, arg'.get e.1 = e.2) : make arg' = .ok rule := by
  simp only [make] at h
  split at h
  · cases h
    simp only [toArgs, List.forall_mem_cons] at same
    obtain ⟨threshold, input, output, -⟩ := same
    simp only [make, threshold, input, output]
    rfl
  · simp only [bind_iff, raiseIf_ok, exists_const, pure_iff] at h
    obtain ⟨-, t, threshold, i, input, o, output, rfl⟩ := h
    simp only [toArgs, List.forall_mem_cons] at same
    obtain ⟨threshold', input', output', -⟩ := same
    simp only [make, threshold', input', output', positiveCount_again threshold,
      positiveCount_again input, positiveCount_again output]
    rfl

namespace PricingSnapshotRef

/-- The snapshot as the keyword arguments that `fromDict` finds in its record. -/
def toArgs (s : PricingSnapshotRef) : Value :=
  .dict ([("snapshot_id", .str s.snapshotId),
    ("catalog_version", .str s.catalogVersion), ("catalog_sha256", .str s.catalogSha256),
    ("source_url", .str s.sourceUrl), ("source_sha256", .str s.sourceSha256),
    ("effective_from", .str s.effectiveFrom),
    ("effective_until", optionalValue .str s.effectiveUntil),
    ("currency", .str "USD"), ("provider", .str s.provider),
    ("billing_surface", .str s.billingSurface), ("model", .str s.model),
    ("service_tier", .str s.serviceTier), ("batch", .bool s.batch),
    ("inference_geo", .str s.inferenceGeo)] ++ s.rates.toDict ++ LongContextRule.toArgs s.longContext)

theorem make_again {arg : Value} {s : PricingSnapshotRef} (h : make host arg = .ok s) :
    make host s.toArgs = .ok s := by
  simp only [make, bind_iff, raiseIf_ok, exists_const, pure_iff] at h
  obtain ⟨version, versionOk, catalog, catalogOk, url, urlOk, https, source, sourceOk,
    start, startOk, stop, stopOk, later, usd, provider, providerOk, surface, surfaceOk,
    model, modelOk, tier, tierOk, batch, batchOk, geo, geoOk, rates, ratesOk, rule, ruleOk,
    digest, digestOk, _, given, rfl⟩ := h
  simp only [make, bind_iff, raiseIf_ok, exists_const, pure_iff]
  refine ⟨version, canonicalText_again versionOk, catalog, sha256Field_again catalogOk,
    url, canonicalText_again urlOk, https, source, sha256Field_again sourceOk,
    start, (timestamp_ok startOk).2, stop, optionalTimestamp_again stopOk, later, rfl,
    provider, slug_again providerOk, surface, slug_again surfaceOk,
    model, canonicalText_again modelOk, tier, slug_again tierOk, batch, rfl, geo, slug_again geoOk,
    rates, PricingRates.make_again ratesOk ?_, rule, LongContextRule.make_again ruleOk ?_,
    digest, digestOk, (), ?_, rfl⟩
  · simp only [PricingRates.fields, List.forall_mem_cons]
    exact ⟨rfl, rfl, rfl, rfl, rfl, rfl, List.forall_mem_nil _⟩
  · cases rule <;> simp only [LongContextRule.toArgs, List.forall_mem_cons] <;>
      exact ⟨rfl, rfl, rfl, List.forall_mem_nil _⟩
  · exact checkGivenId_again (canonicalSha256_hex digestOk) (by decide) (by decide)

theorem fromDict_toDict {arg : Value} {s : PricingSnapshotRef} (h : make host arg = .ok s) :
    fromDict host s.toDict = .ok s := by
  have rule : LongContextRule.readArgs (optionalValue LongContextRule.toDict s.longContext) =
      .ok (LongContextRule.toArgs s.longContext) := by
    cases s.longContext <;> rfl
  simp only [fromDict, bind_iff]
  exact ⟨s.toDict, strictRecord_of_keys rfl, .dict s.rates.toDict, strictRecord_of_keys rfl,
    LongContextRule.toArgs s.longContext, rule, make_again h⟩

end PricingSnapshotRef

end RoundTrip

/-! ### The price of a call -/

/-- `_PRICING_STATUSES`. -/
inductive PricingStatus where
  | estimated
  | unavailable
deriving DecidableEq

namespace PricingStatus

def name : PricingStatus → String
  | estimated => "estimated"
  | unavailable => "unavailable"

def named (s : String) : Option PricingStatus :=
  [estimated, unavailable].find? fun x => x.name = s

theorem named_name (x : PricingStatus) : named x.name = some x := by
  cases x <;> decide

end PricingStatus

/-- `ProviderCallPricing`. An estimate has a snapshot, an amount and both multipliers and no reason;
without one there is a reason and perhaps a snapshot. -/
inductive ProviderCallPricing where
  | estimated (snapshot : PricingSnapshotRef)
      (amountNanoUsd inputMultiplierPpm outputMultiplierPpm : Nat)
  | unavailable (snapshot : Option PricingSnapshotRef) (reason : String)
deriving DecidableEq

namespace ProviderCallPricing

def snapshot : ProviderCallPricing → Option PricingSnapshotRef
  | estimated snapshot _ _ _ => some snapshot
  | unavailable snapshot _ => snapshot

def isEstimated : ProviderCallPricing → Bool
  | estimated _ _ _ _ => true
  | unavailable _ _ => false

/-- `int(amount_nano_usd or 0)`. -/
def amountNanoUsd : ProviderCallPricing → Nat
  | estimated _ amount _ _ => amount
  | unavailable _ _ => 0

/-- The pricing as keyword arguments, its snapshot apart. -/
def toArgs : ProviderCallPricing → Value
  | estimated _ amount input output =>
    .dict [("status", .str "estimated"), ("basis", .str "list_price_estimate"),
      ("amount_nano_usd", natValue amount), ("reason", .none),
      ("input_multiplier_ppm", natValue input), ("output_multiplier_ppm", natValue output)]
  | unavailable _ reason =>
    .dict [("status", .str "unavailable"), ("basis", .none), ("amount_nano_usd", .none),
      ("reason", .str reason), ("input_multiplier_ppm", .none), ("output_multiplier_ppm", .none)]

def toDict (p : ProviderCallPricing) : Value :=
  .dict [("status", p.toArgs.get "status"), ("basis", p.toArgs.get "basis"),
    ("snapshot", optionalValue PricingSnapshotRef.toDict p.snapshot),
    ("amount_nano_usd", p.toArgs.get "amount_nano_usd"), ("reason", p.toArgs.get "reason"),
    ("input_multiplier_ppm", p.toArgs.get "input_multiplier_ppm"),
    ("output_multiplier_ppm", p.toArgs.get "output_multiplier_ppm")]

variable (host : BundleHost)

/-- `ProviderCallPricing(snapshot=snapshot, ...)`. -/
def make (snapshot : Option PricingSnapshotRef) (arg : Value) : Except PyError ProviderCallPricing := do
  let status ← enumField host PricingStatus.named "pricing status"
    (arg.getD "status" (.str "unavailable"))
  let amount ← optionalCount "amount_nano_usd" (arg.get "amount_nano_usd")
  let input ← optionalCount "input_multiplier_ppm" (arg.get "input_multiplier_ppm")
  let output ← optionalCount "output_multiplier_ppm" (arg.get "output_multiplier_ppm")
  let reason ← optionalText host 512 "pricing reason"
    (arg.getD "reason" (.str "pricing_snapshot_unavailable"))
  match status with
  | .estimated =>
    match (arg.get "basis").eqPy (.str "list_price_estimate"), snapshot, amount, reason, input,
      output with
    | true, some snapshot, some amount, none, some (input + 1), some (output + 1) =>
      return estimated snapshot amount (input + 1) (output + 1)
    | _, _, _, _, _, _ =>
      .error (protocolError
        "estimated pricing requires list-price basis, snapshot, amount, and null reason")
  | .unavailable =>
    match (arg.get "basis").isNone, amount, reason, input, output with
    | true, none, some reason, none, none => return unavailable snapshot reason
    | _, _, _, _, _ =>
      .error (protocolError "unavailable pricing requires null basis/amount and a reason")

/-- A snapshot that may be null. -/
def readSnapshot (v : Value) : Except PyError (Option PricingSnapshotRef) :=
  optionalField (PricingSnapshotRef.fromDict host) v

def fields : List String :=
  ["status", "basis", "snapshot", "amount_nano_usd", "reason", "input_multiplier_ppm",
    "output_multiplier_ppm"]

def fromDict (v : Value) : Except PyError ProviderCallPricing := do
  let raw ← strictRecord fields "provider call pricing" v
  let snapshot ← readSnapshot host (raw.get "snapshot")
  make host snapshot raw

/-- What its constructor makes, with a snapshot that its constructor made. -/
def Constructed (p : ProviderCallPricing) : Prop :=
  (∀ s, p.snapshot = some s → s.Constructed host) ∧ ∃ arg, make host p.snapshot arg = .ok p

variable {host}

theorem make_again {snapshot : Option PricingSnapshotRef} {arg : Value} {p : ProviderCallPricing}
    (h : make host snapshot arg = .ok p) : make host snapshot p.toDict = .ok p := by
  simp only [make, bind_iff] at h
  obtain ⟨status, -, amount, amountOk, input, inputOk, output, outputOk, reason, reasonOk, h⟩ := h
  have reasonAgain := optionalText_again reasonOk
  have estimated : enumField host PricingStatus.named "pricing status" (.str "estimated") =
      .ok .estimated := enumField_name PricingStatus.named_name _ .estimated
  have unavailable : enumField host PricingStatus.named "pricing status" (.str "unavailable") =
      .ok .unavailable := enumField_name PricingStatus.named_name _ .unavailable
  simp only [make, bind_iff]
  cases status with
  | estimated =>
    simp only at h
    split at h
    · cases h
      exact ⟨.estimated, estimated, _, optionalCount_again amountOk,
        _, optionalCount_again inputOk, _, optionalCount_again outputOk, none, rfl, rfl⟩
    · cases h
  | unavailable =>
    simp only at h
    split at h
    · cases h
      exact ⟨.unavailable, unavailable, none, rfl, none, rfl, none, rfl, _, reasonAgain, rfl⟩
    · cases h

theorem readSnapshot_toDict {s : Option PricingSnapshotRef}
    (made : ∀ x, s = some x → x.Constructed host) :
    readSnapshot host (optionalValue PricingSnapshotRef.toDict s) = .ok s := by
  cases s with
  | none => rfl
  | some x =>
    obtain ⟨arg, here⟩ := made x rfl
    exact congrArg (Except.map some) (PricingSnapshotRef.fromDict_toDict here)

theorem fromDict_toDict {p : ProviderCallPricing} (made : p.Constructed host) :
    fromDict host p.toDict = .ok p := by
  obtain ⟨snapshots, arg, h⟩ := made
  simp only [fromDict, bind_iff]
  exact ⟨p.toDict, strictRecord_of_keys rfl, p.snapshot, readSnapshot_toDict snapshots, make_again h⟩

end ProviderCallPricing

end Unchain.Accounting
