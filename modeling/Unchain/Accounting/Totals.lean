import Unchain.Accounting.Receipt

/-!
The totals of a set of receipts: coverage, cost, aggregation, the slices of a provider's model, and
the evidence they rest on.
-/

namespace Unchain.Accounting

open Lib Lib.Effect Python

/-! ### Coverage -/

/-- `_COVERAGE_STATUSES`. -/
inductive CoverageStatus where
  | complete
  | partialCoverage
  | unavailable
deriving DecidableEq

namespace CoverageStatus

def name : CoverageStatus → String
  | complete => "complete"
  | partialCoverage => "partial"
  | unavailable => "unavailable"

def named (s : String) : Option CoverageStatus :=
  [complete, partialCoverage, unavailable].find? fun x => x.name = s

theorem named_name (x : CoverageStatus) : named x.name = some x := by
  cases x <;> decide

def ofCounts (observed missing : Nat) : CoverageStatus :=
  if observed = 0 then unavailable else if missing = 0 then complete else partialCoverage

end CoverageStatus

structure UsageCoverage where
  status : CoverageStatus
  receiptCount : Nat
  observedUsageCount : Nat
  missingUsageCount : Nat
  uncertainCallCount : Nat
  missingUsageCallIds : List String
deriving DecidableEq

namespace UsageCoverage

def toDict (c : UsageCoverage) : Value :=
  .dict [("status", .str c.status.name), ("receipt_count", natValue c.receiptCount),
    ("observed_usage_count", natValue c.observedUsageCount),
    ("missing_usage_count", natValue c.missingUsageCount),
    ("uncertain_call_count", natValue c.uncertainCallCount),
    ("missing_usage_call_ids", .list (c.missingUsageCallIds.map .str))]

variable (host : BundleHost)

/-- `UsageCoverage(missing_usage_call_ids=ids, ...)`. -/
def make (ids : List Value) (arg : Value) : Except PyError UsageCoverage := do
  let status ← enumField host CoverageStatus.named "coverage status" (arg.get "status")
  let receiptCount ← count "receipt_count" (arg.get "receipt_count")
  let observed ← count "observed_usage_count" (arg.get "observed_usage_count")
  let missing ← count "missing_usage_count" (arg.get "missing_usage_count")
  let uncertain ← count "uncertain_call_count" (arg.get "uncertain_call_count")
  let missingIds ← sortedTexts (canonicalText host 256 "missing usage call id") ids
  checkUnique "missing usage call ids must be unique" missingIds
  raiseIf (receiptCount ≠ observed + missing)
    (protocolError "coverage observed and missing counts must partition receipts")
  raiseIf (missing ≠ missingIds.length)
    (protocolError "missing usage count must match missing call ids")
  raiseIf (receiptCount < uncertain) (protocolError "uncertain call count exceeds receipts")
  raiseIf (status ≠ .ofCounts observed missing)
    (protocolError "coverage status disagrees with its counts")
  return ⟨status, receiptCount, observed, missing, uncertain, missingIds⟩

def fields : List String :=
  ["status", "receipt_count", "observed_usage_count", "missing_usage_count", "uncertain_call_count",
    "missing_usage_call_ids"]

def fromDict (v : Value) : Except PyError UsageCoverage := do
  let raw ← strictRecord fields "usage coverage" v
  let ids ← exactArray "missing_usage_call_ids must be an exact array"
    (raw.get "missing_usage_call_ids")
  make host ids raw

/-- Whether the usage of a call is known for sure. -/
def isObserved (r : ProviderCallReceipt) : Bool :=
  r.status = .completed && r.usage.hasObservedTotal

/-- `from_receipts`. A receipt is missing when it is not among the observed ones: equal receipts are
observed or missing together. -/
def fromReceipts (receipts : List ProviderCallReceipt) : Except PyError UsageCoverage :=
  let observed := receipts.filter isObserved
  let missing := receipts.filter fun r => !isObserved r
  make host (missing.map fun r => .str r.providerCallId)
    (.dict [("status", .str (CoverageStatus.ofCounts observed.length missing.length).name),
      ("receipt_count", natValue receipts.length),
      ("observed_usage_count", natValue observed.length),
      ("missing_usage_count", natValue missing.length),
      ("uncertain_call_count", natValue (receipts.countP fun r => r.status = .uncertain))])

variable {host} {arg : Value} {c : UsageCoverage} {ids : List Value}

theorem make_ok (h : make host ids arg = .ok c) :
    (∀ k ∈ fields, k ∉ ["missing_usage_call_ids"] → arg.get k = c.toDict.get k) ∧
    ids.Perm (c.missingUsageCallIds.map .str) ∧
    make host (c.missingUsageCallIds.map .str) c.toDict = .ok c := by
  simp only [make, checkUnique, bind_iff, raiseIf_ok, exists_const, pure_iff] at h ⊢
  obtain ⟨status, statusOk, receipts, receiptsOk, observed, observedOk, missing, missingOk,
    uncertain, uncertainOk, missingIds, idsOk, unique, partition, length, few, agrees, rfl⟩ := h
  have statusText := enumField_text statusOk
  obtain ⟨perm, idsAgain⟩ := sortedTexts_ok (fun v s => canonicalText_given) idsOk
  refine ⟨?_, perm, status, enumField_name CoverageStatus.named_name _ _,
    receipts, count_again receiptsOk, observed, count_again observedOk,
    missing, count_again missingOk, uncertain, count_again uncertainOk, missingIds, idsAgain,
    unique, partition, length, few, agrees, rfl⟩
  simp only [fields, List.forall_mem_cons]
  refine ⟨fun _ => ?_, fun _ => (count_ok receiptsOk).1, fun _ => (count_ok observedOk).1,
    fun _ => (count_ok missingOk).1, fun _ => (count_ok uncertainOk).1, by simp, List.forall_mem_nil _⟩
  rw [statusText]
  rfl

theorem fromDict_toDict (h : make host ids arg = .ok c) : fromDict host c.toDict = .ok c := by
  simp only [fromDict, bind_iff]
  exact ⟨_, strictRecord_of_keys rfl, _, rfl, (make_ok h).2.2⟩

theorem hasKey_toDict (c : UsageCoverage) (k : String) : c.toDict.hasKey k = true ↔ k ∈ fields :=
  Assoc.get_isSome_iff

theorem fromDict_ok {v : Value} (h : fromDict host v = .ok c) :
    SameRecord ["missing_usage_call_ids"] v c.toDict := by
  obtain ⟨raw, strict, rest⟩ := bind_ok h
  obtain ⟨rfl, -⟩ := strictRecord_ok strict
  obtain ⟨ids, array, made⟩ := bind_ok rest
  obtain ⟨values, perm, -⟩ := make_ok made
  refine sameRecord_of_strict strict (hasKey_toDict c) values fun k mem => ?_
  obtain rfl := List.mem_singleton.mp mem
  exact ⟨by decide, ids, _, exactArray_ok array, rfl, perm⟩

end UsageCoverage

/-! ### Cost -/

/-- `_COST_STATUSES`. -/
inductive CostStatus where
  | estimated
  | partialCost
  | unavailable
deriving DecidableEq

namespace CostStatus

def name : CostStatus → String
  | estimated => "estimated"
  | partialCost => "partial"
  | unavailable => "unavailable"

def named (s : String) : Option CostStatus :=
  [estimated, partialCost, unavailable].find? fun x => x.name = s

theorem named_name (x : CostStatus) : named x.name = some x := by
  cases x <;> decide

end CostStatus

/-- `RunCost`. An amount comes with the list price basis and in USD, and is there unless the cost is
unavailable. -/
structure RunCost where
  status : CostStatus
  amountNanoUsd : Option Nat
  pricingSnapshotIds : List String
deriving DecidableEq

namespace RunCost

def toDict (c : RunCost) : Value :=
  .dict [("status", .str c.status.name),
    ("basis", if c.amountNanoUsd.isSome then .str "list_price_estimate" else .none),
    ("amount_nano_usd", optionalValue natValue c.amountNanoUsd),
    ("currency", if c.amountNanoUsd.isSome then .str "USD" else .none),
    ("pricing_snapshot_ids", .list (c.pricingSnapshotIds.map .str))]

variable (host : BundleHost)

def checkPriced (basis currency : Value) (amount : Option Nat) : CostStatus → Except PyError Unit
  | .unavailable =>
    raiseIf (!basis.isNone || amount.isSome || !currency.isNone)
      (protocolError "unavailable cost requires null basis, amount, and currency")
  | .estimated | .partialCost =>
    raiseIf (!basis.eqPy (.str "list_price_estimate") || amount.isNone
        || !currency.eqPy (.str "USD"))
      (protocolError "estimated/partial cost requires list-price basis, amount, and USD")

/-- `RunCost(pricing_snapshot_ids=ids, ...)`. -/
def make (ids : List Value) (arg : Value) : Except PyError RunCost := do
  let status ← enumField host CostStatus.named "cost status" (arg.get "status")
  let amount ← optionalCount "amount_nano_usd" (arg.get "amount_nano_usd")
  let snapshotIds ← sortedTexts (canonicalText host 256 "pricing snapshot id") ids
  checkUnique "pricing snapshot ids must be unique" snapshotIds
  checkPriced (arg.get "basis") (arg.get "currency") amount status
  return ⟨status, amount, snapshotIds⟩

def fields : List String := ["status", "basis", "amount_nano_usd", "currency", "pricing_snapshot_ids"]

def fromDict (v : Value) : Except PyError RunCost := do
  let raw ← strictRecord fields "run cost" v
  let ids ← exactArray "pricing_snapshot_ids must be an exact array" (raw.get "pricing_snapshot_ids")
  make host ids raw

def snapshotIds (receipts : List ProviderCallReceipt) : List String :=
  (receipts.filterMap fun r => r.pricing.snapshot.map PricingSnapshotRef.snapshotId).dedup

/-- `from_receipts`. -/
def fromReceipts (receipts : List ProviderCallReceipt) : Except PyError RunCost :=
  let estimated := receipts.filter fun r => r.pricing.isEstimated
  let ids := (sortedBy id (snapshotIds receipts)).map Value.str
  if estimated.isEmpty then
    make host ids (.dict [("status", .str "unavailable"), ("basis", .none),
      ("amount_nano_usd", .none), ("currency", .none)])
  else
    make host ids (.dict [
      ("status", .str (if estimated.length = receipts.length then "estimated" else "partial")),
      ("basis", .str "list_price_estimate"),
      ("amount_nano_usd", natValue (estimated.map fun r => r.pricing.amountNanoUsd).sum),
      ("currency", .str "USD")])

variable {host}

theorem checkPriced_ok {basis currency : Value} {amount : Option Nat} {status : CostStatus}
    (h : checkPriced basis currency amount status = .ok ()) :
    basis = (if amount.isSome then .str "list_price_estimate" else .none) ∧
    currency = (if amount.isSome then .str "USD" else .none) := by
  cases status with
  | unavailable =>
    rw [checkPriced, raiseIf_ok] at h
    simp only [Bool.or_eq_false_iff, Bool.not_eq_false', Value.isNone_iff] at h
    obtain ⟨⟨rfl, absent⟩, rfl⟩ := h
    simp [absent]
  | _ =>
    rw [checkPriced, raiseIf_ok] at h
    simp only [Bool.or_eq_false_iff, Bool.not_eq_false', Value.eqPy_str_iff] at h
    obtain ⟨⟨rfl, present⟩, rfl⟩ := h
    cases amount with
    | none => cases present
    | some n => exact ⟨rfl, rfl⟩

variable {arg : Value} {c : RunCost} {ids : List Value}

theorem make_ok (h : make host ids arg = .ok c) :
    (∀ k ∈ fields, k ∉ ["pricing_snapshot_ids"] → arg.get k = c.toDict.get k) ∧
    ids.Perm (c.pricingSnapshotIds.map .str) ∧
    make host (c.pricingSnapshotIds.map .str) c.toDict = .ok c := by
  simp only [make, checkUnique, bind_iff, raiseIf_ok, exists_const, pure_iff] at h ⊢
  obtain ⟨status, statusOk, amount, amountOk, snapshots, idsOk, unique, _, priced, rfl⟩ := h
  have statusText := enumField_text statusOk
  obtain ⟨perm, idsAgain⟩ := sortedTexts_ok (fun v s => canonicalText_given) idsOk
  obtain ⟨basis, currency⟩ := checkPriced_ok priced
  rw [basis, currency] at priced
  refine ⟨?_, perm, status, enumField_name CostStatus.named_name _ _,
    amount, optionalCount_again amountOk, snapshots, idsAgain, unique, (), priced, rfl⟩
  simp only [fields, List.forall_mem_cons]
  refine ⟨fun _ => ?_, fun _ => basis, fun _ => optionalCount_ok amountOk, fun _ => currency,
    by simp, List.forall_mem_nil _⟩
  rw [statusText]
  rfl

theorem fromDict_toDict (h : make host ids arg = .ok c) : fromDict host c.toDict = .ok c := by
  simp only [fromDict, bind_iff]
  exact ⟨_, strictRecord_of_keys rfl, _, rfl, (make_ok h).2.2⟩

theorem hasKey_toDict (c : RunCost) (k : String) : c.toDict.hasKey k = true ↔ k ∈ fields :=
  Assoc.get_isSome_iff

theorem fromDict_ok {v : Value} (h : fromDict host v = .ok c) :
    SameRecord ["pricing_snapshot_ids"] v c.toDict := by
  obtain ⟨raw, strict, rest⟩ := bind_ok h
  obtain ⟨rfl, -⟩ := strictRecord_ok strict
  obtain ⟨ids, array, made⟩ := bind_ok rest
  obtain ⟨values, perm, -⟩ := make_ok made
  refine sameRecord_of_strict strict (hasKey_toDict c) values fun k mem => ?_
  obtain rfl := List.mem_singleton.mp mem
  exact ⟨by decide, ids, _, exactArray_ok array, rfl, perm⟩

end RunCost

/-! ### Slices -/

structure UsageSlice where
  provider : String
  model : String
  serviceTier : Option String
  callIds : List String
  usage : ProviderCallUsage
  coverage : UsageCoverage
  cost : RunCost
deriving DecidableEq

namespace UsageSlice

/-- The order of slices: `(provider, model, service_tier or "")`. -/
def sortKey (s : UsageSlice) : Lex (String × Lex (String × String)) :=
  toLex (s.provider, toLex (s.model, s.serviceTier.getD ""))

def record (s : UsageSlice) (usage coverage cost : Value) : Value :=
  .dict [("provider", .str s.provider), ("model", .str s.model),
    ("service_tier", optionalValue .str s.serviceTier), ("call_ids", .list (s.callIds.map .str)),
    ("usage", usage), ("coverage", coverage), ("cost", cost)]

def toDict (s : UsageSlice) : Value := s.record s.usage.toDict s.coverage.toDict s.cost.toDict

variable (host : BundleHost)

/-- `UsageSlice(call_ids=ids, usage=usage, coverage=coverage, cost=cost, ...)`. -/
def make (ids : List Value) (usage : ProviderCallUsage) (coverage : UsageCoverage) (cost : RunCost)
    (arg : Value) : Except PyError UsageSlice := do
  let provider ← slug host "provider" (arg.get "provider")
  let model ← canonicalText host 256 "model" (arg.get "model")
  let serviceTier ← optionalSlug host "service_tier" (arg.get "service_tier")
  let callIds ← sortedTexts (canonicalText host 256 "provider call id") ids
  raiseIf (callIds.isEmpty || !decide callIds.Nodup)
    (protocolError "usage slice call ids must be non-empty and unique")
  return ⟨provider, model, serviceTier, callIds, usage, coverage, cost⟩

def fields : List String :=
  ["provider", "model", "service_tier", "call_ids", "usage", "coverage", "cost"]

def fromDict (v : Value) : Except PyError UsageSlice := do
  let raw ← strictRecord fields "usage slice" v
  let ids ← exactArray "usage slice call_ids must be an exact array" (raw.get "call_ids")
  let usage ← ProviderCallUsage.fromDict host (raw.get "usage")
  let coverage ← UsageCoverage.fromDict host (raw.get "coverage")
  let cost ← RunCost.fromDict host (raw.get "cost")
  make host ids usage coverage cost raw

variable {host}

theorem make_again {ids : List Value} {usage usage' : ProviderCallUsage}
    {coverage coverage' : UsageCoverage} {cost cost' : RunCost} {arg : Value} {s : UsageSlice}
    (h : make host ids usage coverage cost arg = .ok s) (u c p : Value) :
    make host (s.callIds.map .str) usage' coverage' cost' (s.record u c p) =
      .ok { s with usage := usage', coverage := coverage', cost := cost' } := by
  simp only [make, bind_iff, raiseIf_ok, exists_const, pure_iff] at h ⊢
  obtain ⟨provider, providerOk, model, modelOk, tier, tierOk, callIds, idsOk, valid, rfl⟩ := h
  obtain ⟨-, idsAgain⟩ := sortedTexts_ok (fun v s => canonicalText_given) idsOk
  exact ⟨provider, slug_again providerOk, model, canonicalText_again modelOk,
    tier, optionalSlug_again tierOk, callIds, idsAgain, valid, rfl⟩

end UsageSlice

/-! ### Aggregation -/

@[ext] structure RunAggregation where
  directCallIds : List String
  descendantCallIds : List String
  allCallIds : List String
  directUsage : ProviderCallUsage
  descendantUsage : ProviderCallUsage
  allUsage : ProviderCallUsage
deriving DecidableEq

namespace RunAggregation

/-- `PROVIDER_CALL_SET_UNION_ALGORITHM`. -/
def algorithm : String := "provider_call_set_union.v1"

def record (a : RunAggregation) (direct descendant all : Value) : Value :=
  .dict [("algorithm", .str algorithm), ("direct_call_ids", .list (a.directCallIds.map .str)),
    ("descendant_call_ids", .list (a.descendantCallIds.map .str)),
    ("all_call_ids", .list (a.allCallIds.map .str)), ("direct_usage", direct),
    ("descendant_usage", descendant), ("all_usage", all)]

def toDict (a : RunAggregation) : Value :=
  a.record a.directUsage.toDict a.descendantUsage.toDict a.allUsage.toDict

variable (host : BundleHost)

def readIds (field : String) (ids : List Value) : Except PyError (List String) := do
  let texts ← sortedTexts (canonicalText host 256 "provider call id") ids
  checkUnique (field ++ " must be unique") texts
  return texts

/-- `RunAggregation(...)`. -/
def make (given : Value) (directIds descendantIds allIds : List Value)
    (directUsage descendantUsage allUsage : ProviderCallUsage) : Except PyError RunAggregation := do
  raiseIf (!given.eqPy (.str algorithm)) (protocolError "run aggregation algorithm is unsupported")
  let direct ← readIds host "direct_call_ids" directIds
  let descendant ← readIds host "descendant_call_ids" descendantIds
  let all ← readIds host "all_call_ids" allIds
  raiseIf (direct.any (descendant.contains ·))
    (protocolError "direct and descendant call sets overlap")
  raiseIf (!(all.all fun id => direct.contains id || descendant.contains id)
      || !(direct ++ descendant).all (all.contains ·))
    (protocolError "all call ids must be the direct/descendant set union")
  return ⟨direct, descendant, all, directUsage, descendantUsage, allUsage⟩

def fields : List String :=
  ["algorithm", "direct_call_ids", "descendant_call_ids", "all_call_ids", "direct_usage",
    "descendant_usage", "all_usage"]

def fromDict (v : Value) : Except PyError RunAggregation := do
  let raw ← strictRecord fields "run aggregation" v
  let directIds ← exactArray "direct_call_ids must be an exact array" (raw.get "direct_call_ids")
  let descendantIds ← exactArray "descendant_call_ids must be an exact array"
    (raw.get "descendant_call_ids")
  let allIds ← exactArray "all_call_ids must be an exact array" (raw.get "all_call_ids")
  let directUsage ← ProviderCallUsage.fromDict host (raw.get "direct_usage")
  let descendantUsage ← ProviderCallUsage.fromDict host (raw.get "descendant_usage")
  let allUsage ← ProviderCallUsage.fromDict host (raw.get "all_usage")
  make host (raw.get "algorithm") directIds descendantIds allIds directUsage descendantUsage allUsage

variable {host}

theorem readIds_again {field : String} {ids : List Value} {texts : List String}
    (h : readIds host field ids = .ok texts) : readIds host field (texts.map .str) = .ok texts := by
  simp only [readIds, checkUnique, bind_iff, raiseIf_ok, exists_const, pure_iff] at h ⊢
  obtain ⟨texts, read, unique, rfl⟩ := h
  obtain ⟨-, again⟩ := sortedTexts_ok (fun v s => canonicalText_given) read
  exact ⟨texts, again, unique, rfl⟩

theorem make_again {given : Value} {directIds descendantIds allIds : List Value}
    {direct descendant all direct' descendant' all' : ProviderCallUsage} {a : RunAggregation}
    (h : make host given directIds descendantIds allIds direct descendant all = .ok a) :
    make host (.str algorithm) (a.directCallIds.map .str) (a.descendantCallIds.map .str)
        (a.allCallIds.map .str) direct' descendant' all' =
      .ok { a with directUsage := direct', descendantUsage := descendant', allUsage := all' } := by
  simp only [make, bind_iff, raiseIf_ok, exists_const, pure_iff] at h ⊢
  obtain ⟨-, d, dOk, e, eOk, f, fOk, apart, union, rfl⟩ := h
  exact ⟨by decide, d, readIds_again dOk, e, readIds_again eOk, f, readIds_again fOk, apart, union,
    rfl⟩

end RunAggregation

/-! ### Evidence -/

structure RunEvidence where
  receiptSha256s : List String
  rawUsageSha256s : List String
  pricingSnapshotIds : List String
deriving DecidableEq

namespace RunEvidence

def toDict (e : RunEvidence) : Value :=
  .dict [("receipt_sha256s", .list (e.receiptSha256s.map .str)),
    ("raw_usage_sha256s", .list (e.rawUsageSha256s.map .str)),
    ("pricing_snapshot_ids", .list (e.pricingSnapshotIds.map .str))]

variable (host : BundleHost)

/-- `RunEvidence(...)`. -/
def make (receipts rawUsages snapshots : List Value) : Except PyError RunEvidence := do
  let receiptSha256s ← sortedTexts (sha256Field "receipt sha256") receipts
  let rawUsageSha256s ← sortedTexts (sha256Field "raw usage sha256") rawUsages
  let pricingSnapshotIds ← sortedTexts (canonicalText host 256 "pricing snapshot id") snapshots
  checkUnique "receipt_sha256s must be unique" receiptSha256s
  checkUnique "raw_usage_sha256s must be unique" rawUsageSha256s
  checkUnique "pricing_snapshot_ids must be unique" pricingSnapshotIds
  return ⟨receiptSha256s, rawUsageSha256s, pricingSnapshotIds⟩

def fields : List String := ["receipt_sha256s", "raw_usage_sha256s", "pricing_snapshot_ids"]

def fromDict (v : Value) : Except PyError RunEvidence := do
  let raw ← strictRecord fields "run evidence" v
  let receipts ← exactArray "run evidence members must be exact arrays" (raw.get "receipt_sha256s")
  let rawUsages ← exactArray "run evidence members must be exact arrays"
    (raw.get "raw_usage_sha256s")
  let snapshots ← exactArray "run evidence members must be exact arrays"
    (raw.get "pricing_snapshot_ids")
  make host receipts rawUsages snapshots

def fromReceipts (receipts : List ProviderCallReceipt) : Except PyError RunEvidence := do
  let digests ← receipts.mapM (ProviderCallReceipt.receiptSha256 host)
  make host (digests.dedup.map .str)
    ((receipts.filterMap ProviderCallReceipt.rawUsageSha256).dedup.map .str)
    ((RunCost.snapshotIds receipts).map .str)

variable {host} {e : RunEvidence} {rawUsages receipts snapshots : List Value}

theorem make_ok (h : make host receipts rawUsages snapshots = .ok e) :
    (receipts.Perm (e.receiptSha256s.map .str) ∧ rawUsages.Perm (e.rawUsageSha256s.map .str) ∧
      snapshots.Perm (e.pricingSnapshotIds.map .str)) ∧
    make host (e.receiptSha256s.map .str) (e.rawUsageSha256s.map .str)
      (e.pricingSnapshotIds.map .str) = .ok e := by
  simp only [make, checkUnique, bind_iff, raiseIf_ok, exists_const, pure_iff] at h ⊢
  obtain ⟨a, aOk, b, bOk, c, cOk, uniqueA, uniqueB, uniqueC, rfl⟩ := h
  obtain ⟨permA, againA⟩ := sortedTexts_ok (fun v s => sha256Field_given) aOk
  obtain ⟨permB, againB⟩ := sortedTexts_ok (fun v s => sha256Field_given) bOk
  obtain ⟨permC, againC⟩ := sortedTexts_ok (fun v s => canonicalText_given) cOk
  exact ⟨⟨permA, permB, permC⟩, a, againA, b, againB, c, againC, uniqueA, uniqueB, uniqueC, rfl⟩

theorem fromDict_toDict (h : make host receipts rawUsages snapshots = .ok e) :
    fromDict host e.toDict = .ok e := by
  simp only [fromDict, bind_iff]
  exact ⟨_, strictRecord_of_keys rfl, _, rfl, _, rfl, _, rfl, (make_ok h).2⟩

/-- What is read as evidence is its record, but for the order of the lists. -/
theorem fromDict_ok {v : Value} (h : fromDict host v = .ok e) : SameRecord fields v e.toDict := by
  obtain ⟨raw, strict, rest⟩ := bind_ok h
  obtain ⟨rfl, -⟩ := strictRecord_ok strict
  obtain ⟨a, arrayA, rest⟩ := bind_ok rest
  obtain ⟨b, arrayB, rest⟩ := bind_ok rest
  obtain ⟨c, arrayC, made⟩ := bind_ok rest
  obtain ⟨⟨permA, permB, permC⟩, -⟩ := make_ok made
  refine sameRecord_of_strict strict (fun k => Assoc.get_isSome_iff) (fun k mem other => ?_) ?_
  · exact absurd mem other
  · simp only [fields, List.forall_mem_cons]
    exact ⟨⟨by decide, a, _, exactArray_ok arrayA, rfl, permA⟩,
      ⟨by decide, b, _, exactArray_ok arrayB, rfl, permB⟩,
      ⟨by decide, c, _, exactArray_ok arrayC, rfl, permC⟩, nofun⟩

end RunEvidence

end Unchain.Accounting
