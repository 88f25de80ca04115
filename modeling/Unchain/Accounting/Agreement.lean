import Unchain.Accounting.Compact
import Unchain.Accounting.SetUnion

/-!
The compact bundle of some facts against the full one.

The reducer counts the set of the facts and adds the event of every receipt; the compact bundle
counts the facts as they are listed. The totals agree exactly when the two come to the same
numbers.
-/

namespace Unchain.Accounting

open Lib Lib.Effect Lib.KeyedUnion Python
open CompactRunBundle (fromFacts readBundleId summaryMetrics)
open RunMetricCounters (artifacts contextBuilds interactions iterations make_toDict modelAttempts
  toolCalls toolResults)

variable {host : BundleHost}

structure TotalsAgree (host : BundleHost) (b : RunBundle) (c : CompactRunBundle) : Prop where
  allUsage : c.aggregationUsage = b.aggregation.allUsage.toDict
  directUsage : c.directUsage = b.aggregation.directUsage.toDict
  descendantUsage : c.descendantUsage = b.aggregation.descendantUsage.toDict
  coverage : coverageSummary host b.coverage = .ok c.coverage
  cost : costSummary host b.cost = .ok c.cost
  directMetrics : c.metrics.get "direct" = b.metrics.direct.toDict
  descendantMetrics : c.metrics.get "descendant" = b.metrics.descendant.toDict
  allMetrics : c.metrics.get "all" = b.metrics.all.toDict
  receiptCount : (c.evidence.get "receipt_sha256s").get "count" =
    natValue b.evidence.receiptSha256s.length
  rawUsageCount : (c.evidence.get "raw_usage_sha256s").get "count" =
    natValue b.evidence.rawUsageSha256s.length
  snapshotCount : (c.evidence.get "pricing_snapshot_ids").get "count" =
    natValue b.evidence.pricingSnapshotIds.length

/-! ### What the compact bundle says -/

/-- The totals of a compact bundle are the summaries of the sorted facts. -/
structure Summarizes (host : BundleHost) (runId : String) (receipts : List ProviderCallReceipt)
    (events : List RunMetricEvent) (c : CompactRunBundle) : Prop where
  metrics : CompactRunBundle.summaryMetrics host runId events = .ok c.metrics
  allUsage : summaryUsage host receipts = .ok c.aggregationUsage
  directUsage : summaryUsage host (RunBundle.directCalls runId receipts) = .ok c.directUsage
  descendantUsage : summaryUsage host (RunBundle.descendantCalls runId receipts) =
    .ok c.descendantUsage
  coverage : summaryCoverage host receipts = .ok c.coverage
  cost : summaryCost host receipts = .ok c.cost
  evidence : summaryEvidence host receipts = .ok c.evidence

theorem fromFacts_summarizes {args : CompactRunBundle.Args} {facts : Facts} {c : CompactRunBundle}
    {details : CompactRunBundle.Details}
    (h : fromFacts host args facts.receipts facts.metricEvents facts.children =
      .ok (c, details)) : Summarizes host args.identity.runId
      (sortedBy ProviderCallReceipt.providerCallId facts.receipts)
      (sortedBy RunMetricEvent.metricEventId facts.metricEvents) c := by
  simp only [fromFacts, bind_iff, pure_iff] at h
  obtain ⟨_, -, _, -, _, -, _, -, metrics, metricsOk, all, allOk, direct, directOk, descendant,
    descendantOk, coverage, coverageOk, cost, costOk, evidence, evidenceOk, _, -, _, -, bundle, made,
    same⟩ := h
  obtain rfl : bundle = c := congrArg Prod.fst same
  simp only [CompactRunBundle.make, bind_iff, pure_iff] at made
  obtain ⟨_, -, _, -, _, -, _, -, _, -, _, -, _, -, _, -, _, -, _, -, _, -, rfl⟩ := made
  exact ⟨metricsOk, allOk, directOk, descendantOk, coverageOk, costOk, evidenceOk⟩

variable {v : Value}

theorem setSummary_count {texts : List String} (h : setSummary host texts = .ok v) :
    v.get "count" = natValue texts.length := by
  simp only [setSummary, bind_iff, pure_iff] at h
  obtain ⟨digest, -, rfl⟩ := h
  rfl

variable {receipts : List ProviderCallReceipt}

theorem summaryUsage_ok (h : summaryUsage host receipts = .ok v) :
    ∃ u, RunBundle.sumUsage host receipts = .ok u ∧ v = u.toDict := by
  simp only [summaryUsage, bind_iff, pure_iff] at h
  obtain ⟨u, sum, rfl⟩ := h
  exact ⟨u, sum, rfl⟩

theorem coverageSummary_receiptCount {c : UsageCoverage} (h : coverageSummary host c = .ok v) :
    v.get "receipt_count" = natValue c.receiptCount := by
  simp only [coverageSummary, bind_iff, pure_iff] at h
  obtain ⟨missing, -, rfl⟩ := h
  rfl

theorem fromReceipts_receiptCount {c : UsageCoverage}
    (h : UsageCoverage.fromReceipts host receipts = .ok c) : c.receiptCount = receipts.length := by
  have fields := (UsageCoverage.make_ok h).1 "receipt_count" (by decide) (by decide)
  exact (natValue_inj fields).symm

variable {events : List RunMetricEvent} {runId : String}

theorem summaryMetrics_ok (h : summaryMetrics host runId events = .ok v) :
    v.get "direct" =
      (RunMetricCounters.tally (events.filter fun e => e.ownerRunId = runId)).toDict ∧
    v.get "descendant" =
      (RunMetricCounters.tally (events.filter fun e => e.ownerRunId ≠ runId)).toDict ∧
    v.get "all" = (RunMetricCounters.tally events).toDict := by
  simp only [summaryMetrics, bind_iff, pure_iff] at h
  obtain ⟨digest, -, direct, directOk, descendant, descendantOk, all, allOk, rfl⟩ := h
  rw [make_toDict directOk, make_toDict descendantOk, make_toDict allOk]
  exact ⟨rfl, rfl, rfl⟩

/-! ### Counters -/

def ofSide (runId : String) (kind : MetricKind) (direct : Bool) (e : RunMetricEvent) : Bool :=
  e.kind = kind && decide (e.ownerRunId = runId) == direct

theorem tally_eq_iff {xs ys : List RunMetricEvent} :
    RunMetricCounters.tally xs = RunMetricCounters.tally ys ↔
      ∀ kind : MetricKind, xs.countP (fun e => e.kind = kind) = ys.countP fun e => e.kind = kind := by
  constructor
  · intro same kind
    cases kind with
    | artifact => exact congrArg artifacts same
    | modelAttempt => exact congrArg modelAttempts same
    | iteration => exact congrArg iterations same
    | toolCall => exact congrArg toolCalls same
    | toolResult => exact congrArg toolResults same
    | interaction => exact congrArg interactions same
    | contextBuild => exact congrArg contextBuilds same
    | contextCompaction => exact congrArg RunMetricCounters.contextCompactions same
    | error => exact congrArg RunMetricCounters.errors same
  · intro same
    exact RunMetricCounters.ext (same .artifact) (same .modelAttempt) (same .iteration)
      (same .toolCall) (same .toolResult) (same .interaction) (same .contextBuild)
      (same .contextCompaction) (same .error)

theorem tally_perm {xs ys : List RunMetricEvent} (perm : xs.Perm ys) :
    RunMetricCounters.tally xs = RunMetricCounters.tally ys :=
  tally_eq_iff.mpr fun _ => perm.countP_eq _

theorem toDict_eq_iff {c d : RunMetricCounters} : c.toDict = d.toDict ↔ c = d := by
  constructor
  · intro same
    have fields := congrArg Value.entries same
    simp only [RunMetricCounters.toDict, Value.entries_dict, List.cons.injEq, Prod.mk.injEq, true_and,
      and_true] at fields
    obtain ⟨a, b, c', d', e, f, g, i, j⟩ := fields
    exact RunMetricCounters.ext (natValue_inj a) (natValue_inj b) (natValue_inj c') (natValue_inj d')
      (natValue_inj e) (natValue_inj f) (natValue_inj g) (natValue_inj i) (natValue_inj j)
  · exact congrArg RunMetricCounters.toDict

def SameCounters (runId : String) (xs ys : List RunMetricEvent) : Prop :=
  RunMetricCounters.tally (xs.filter fun e => e.ownerRunId = runId) =
    RunMetricCounters.tally (ys.filter fun e => e.ownerRunId = runId) ∧
  RunMetricCounters.tally (xs.filter fun e => e.ownerRunId ≠ runId) =
    RunMetricCounters.tally (ys.filter fun e => e.ownerRunId ≠ runId) ∧
  RunMetricCounters.tally xs = RunMetricCounters.tally ys

theorem countP_side (runId : String) (kind : MetricKind) (xs : List RunMetricEvent) :
    (xs.filter (ofSide runId kind true)).length =
      (xs.filter fun e => e.ownerRunId = runId).countP (fun e => e.kind = kind) ∧
    (xs.filter (ofSide runId kind false)).length =
      (xs.filter fun e => e.ownerRunId ≠ runId).countP fun e => e.kind = kind := by
  rw [List.countP_filter, List.countP_filter, List.countP_eq_length_filter,
    List.countP_eq_length_filter]
  constructor <;> congr 2 <;> funext e <;> simp [ofSide]

theorem sameCounters_iff {xs ys : List RunMetricEvent} : SameCounters runId xs ys ↔ ∀ kind direct,
      (xs.filter (ofSide runId kind direct)).length =
        (ys.filter (ofSide runId kind direct)).length := by
  have parts (kind : MetricKind) (zs : List RunMetricEvent) :
      zs.countP (fun e => e.kind = kind) =
        (zs.filter (ofSide runId kind true)).length +
          (zs.filter (ofSide runId kind false)).length := by
    obtain ⟨direct, descendant⟩ := countP_side runId kind zs
    rw [direct, descendant, ← List.countP_append]
    refine (List.Perm.countP_eq _ ?_).symm
    simpa using List.filter_append_perm (fun e : RunMetricEvent => decide (e.ownerRunId = runId)) zs
  constructor
  · rintro ⟨direct, descendant, -⟩ kind side
    obtain ⟨xsDirect, xsDescendant⟩ := countP_side runId kind xs
    obtain ⟨ysDirect, ysDescendant⟩ := countP_side runId kind ys
    cases side with
    | true =>
      rw [xsDirect, ysDirect]
      exact tally_eq_iff.mp direct kind
    | false =>
      rw [xsDescendant, ysDescendant]
      exact tally_eq_iff.mp descendant kind
  · intro same
    refine ⟨tally_eq_iff.mpr fun kind => ?_, tally_eq_iff.mpr fun kind => ?_,
      tally_eq_iff.mpr fun kind => ?_⟩
    · rw [← (countP_side runId kind xs).1, ← (countP_side runId kind ys).1, same]
    · rw [← (countP_side runId kind xs).2, ← (countP_side runId kind ys).2, same]
    · rw [parts, parts, same, same]

/-! ### When the lists count as the sets do -/

/-- The events that the reducer adds for some receipts. -/
def receiptEvents (host : BundleHost) (receipts : List ProviderCallReceipt) : List RunMetricEvent :=
  receipts.filterMap fun r => (metricEventFromReceipt host r).toOption

theorem receiptEvents_eq {attempts : List RunMetricEvent}
    (h : receipts.mapM (metricEventFromReceipt host) = .ok attempts) :
    receiptEvents host receipts = attempts := by
  induction receipts generalizing attempts with
  | nil =>
    cases h
    rfl
  | cons r rs ih =>
    simp only [List.mapM_cons, bind_iff, pure_iff] at h
    obtain ⟨event, made, events, others, rfl⟩ := h
    have here : (metricEventFromReceipt host r).toOption = some event := by
      rw [made]
      rfl
    have rest := ih others
    rw [receiptEvents] at rest ⊢
    rw [List.filterMap_cons, here, rest]

theorem mem_receiptEvents_congr {xs ys : List ProviderCallReceipt} (same : ∀ r, r ∈ xs ↔ r ∈ ys)
    (e : RunMetricEvent) : e ∈ receiptEvents host xs ↔ e ∈ receiptEvents host ys := by
  simp only [receiptEvents, List.mem_filterMap, same]

theorem receiptEvents_kind {e : RunMetricEvent} (mem : e ∈ receiptEvents host receipts) :
    e.kind = .modelAttempt := by
  obtain ⟨r, -, made⟩ := List.mem_filterMap.mp mem
  cases outcome : metricEventFromReceipt host r with
  | error err =>
    rw [outcome] at made
    cases made
  | ok event =>
    rw [outcome] at made
    cases made
    simp only [metricEventFromReceipt, RunMetricEvent.make, bind_iff, raiseIf_ok,
      exists_const, pure_iff] at outcome
    obtain ⟨_, -, _, -, _, -, _, -, _, -, kind, kindOk, _, -, _, -, -, -, -, _, -, _, -, rfl⟩ :=
      outcome
    obtain ⟨name, text, named⟩ := enumField_ok kindOk
    obtain rfl : name = "model_attempt" := (Value.str.inj text).symm
    exact Option.some.inj (named.symm.trans (MetricKind.named_name .modelAttempt))

structure CountedOnce (host : BundleHost) (runId : String) (facts : Facts) : Prop where
  receipts : (facts.receipts.map ProviderCallReceipt.providerCallId).Nodup
  rawUsages : (facts.receipts.filterMap ProviderCallReceipt.rawUsageSha256).Nodup
  snapshots : (listedSnapshotIds facts.receipts).Nodup
  events : (facts.metricEvents.filter fun e => e.kind ≠ .modelAttempt).Nodup
  attempts : ∀ direct, (facts.metricEvents.filter (ofSide runId .modelAttempt direct)).length =
    ((facts.metricEvents ++ receiptEvents host facts.receipts).filter
      (ofSide runId .modelAttempt direct)).dedup.length

variable {listed united : List RunMetricEvent}

theorem counters_agree_iff {own : List RunMetricEvent}
    (union : UnionOf RunMetricEvent.metricEventId (listed ++ own) united)
    (kinds : ∀ e ∈ own, e.kind = .modelAttempt) : SameCounters runId listed united ↔
      (listed.filter fun e => e.kind ≠ .modelAttempt).Nodup ∧
      ∀ direct, (listed.filter (ofSide runId .modelAttempt direct)).length =
        ((listed ++ own).filter (ofSide runId .modelAttempt direct)).dedup.length := by
  have others {kind : MetricKind} (other : kind ≠ .modelAttempt) (direct : Bool) :
      (listed ++ own).filter (ofSide runId kind direct) = listed.filter (ofSide runId kind direct) := by
    have none : own.filter (ofSide runId kind direct) = [] := by
      rw [List.filter_eq_nil_iff]
      intro e mem
      simp [ofSide, kinds e mem, other.symm]
    rw [List.filter_append, none, List.append_nil]
  rw [sameCounters_iff]
  simp only [union.length_filter]
  constructor
  · intro same
    refine ⟨?_, same .modelAttempt⟩
    rw [List.nodup_iff_count_le_one]
    intro e
    by_cases other : e.kind = .modelAttempt
    · rw [List.count_eq_zero_of_not_mem (by simp [other])]
      exact Nat.zero_le 1
    · have counted := same e.kind (decide (e.ownerRunId = runId))
      rw [others other, length_dedup_eq_iff, List.nodup_iff_count_le_one] at counted
      have here := counted e
      rw [List.count_filter (by simp [ofSide])] at here
      rw [List.count_filter (by simpa using other)]
      exact here
  · rintro ⟨nodup, attempts⟩ kind direct
    by_cases attempt : kind = .modelAttempt
    · rw [attempt]
      exact attempts direct
    · rw [others attempt, length_dedup_eq_iff]
      refine nodup.sublist (List.monotone_filter_right listed fun e here => ?_)
      simp only [ofSide, Bool.and_eq_true, decide_eq_true_eq] at here
      simpa [here.1] using attempt

/-! ### Evidence -/

theorem nodup_digests {digests : List String} (made : ∀ r ∈ receipts, r.Constructed host)
    (apart : DigestsApart host receipts) (unique : (RunBundle.callIds receipts).Nodup)
    (read : receipts.mapM (ProviderCallReceipt.receiptSha256 host) = .ok digests) :
    digests.Nodup := by
  refine nodup_of_mapM read (fun r mem r' mem' digest here there => ?_) (List.Nodup.of_map _ unique)
  exact receipt_eq_of_digest made apart mem mem' here there

/-- The numbers of the evidence of some different receipts agree when no digest and no id occurs
twice. -/
theorem evidence_agree_iff {e : RunEvidence} (made : ∀ r ∈ receipts, r.Constructed host)
    (apart : DigestsApart host receipts) (unique : (RunBundle.callIds receipts).Nodup)
    (full : RunEvidence.fromReceipts host receipts = .ok e)
    (compact : summaryEvidence host receipts = .ok v) :
    ((v.get "receipt_sha256s").get "count" = natValue e.receiptSha256s.length ∧
      (v.get "raw_usage_sha256s").get "count" = natValue e.rawUsageSha256s.length ∧
      (v.get "pricing_snapshot_ids").get "count" = natValue e.pricingSnapshotIds.length) ↔
    (receipts.filterMap ProviderCallReceipt.rawUsageSha256).Nodup ∧
      (listedSnapshotIds receipts).Nodup := by
  obtain ⟨digests, read, made'⟩ := bind_ok full
  obtain ⟨⟨receiptPerm, rawPerm, snapshotPerm⟩, -⟩ := RunEvidence.make_ok made'
  simp only [summaryEvidence, bind_iff, pure_iff] at compact
  obtain ⟨digests', read', receiptIds, receiptIdsOk, rawIds, rawIdsOk, pricingIds, pricingIdsOk, rfl⟩ :=
    compact
  obtain rfl : digests = digests' := Except.ok.inj (read.symm.trans read')
  have receiptLength := receiptPerm.length_eq
  have rawLength := rawPerm.length_eq
  have snapshotLength := snapshotPerm.length_eq
  simp only [List.length_map] at receiptLength rawLength snapshotLength
  have counts : ∀ {m n : Nat}, natValue m = natValue n ↔ m = n :=
    fun {m n} => ⟨natValue_inj, congrArg natValue⟩
  change ((receiptIds.get "count" = _) ∧ (rawIds.get "count" = _) ∧ pricingIds.get "count" = _) ↔ _
  rw [setSummary_count receiptIdsOk, setSummary_count rawIdsOk, setSummary_count pricingIdsOk,
    counts, counts, counts, ← receiptLength, ← rawLength, ← snapshotLength]
  have different := nodup_digests made apart unique read
  rw [length_dedup_eq_iff, length_dedup_eq_iff]
  change _ ∧ _ ∧ (listedSnapshotIds receipts).length = (listedSnapshotIds receipts).dedup.length ↔ _
  rw [length_dedup_eq_iff]
  exact and_iff_right different

/-! ### Agreement -/

variable {m : RunMetrics}

theorem fromEvents_ok (h : RunMetrics.fromEvents events runId = .ok m) :
    m.direct = RunMetricCounters.tally (events.filter fun e => e.ownerRunId = runId) ∧
    m.descendant = RunMetricCounters.tally (events.filter fun e => e.ownerRunId ≠ runId) ∧
    m.all = RunMetricCounters.tally events := by
  simp only [RunMetrics.fromEvents, RunMetrics.make, bind_iff, raiseIf_ok, exists_const,
    pure_iff] at h
  obtain ⟨direct, directOk, descendant, descendantOk, all, allOk, -, -, -, _, -, -, rfl⟩ := h
  have perm := @sortedBy_perm _ _ _ RunMetricEvent.metricEventId events
  refine ⟨?_, ?_, ?_⟩
  · rw [make_toDict directOk]
    exact tally_perm (perm.filter _)
  · rw [make_toDict descendantOk]
    exact tally_perm (perm.filter _)
  · rw [make_toDict allOk]
    exact tally_perm perm

theorem metrics_agree_iff (full : RunMetrics.fromEvents united runId = .ok m)
    (compact : summaryMetrics host runId
      (sortedBy RunMetricEvent.metricEventId listed) = .ok v) :
    (v.get "direct" = m.direct.toDict ∧ v.get "descendant" = m.descendant.toDict ∧
      v.get "all" = m.all.toDict) ↔ SameCounters runId listed united := by
  obtain ⟨direct, descendant, all⟩ := fromEvents_ok full
  obtain ⟨direct', descendant', all'⟩ := summaryMetrics_ok compact
  have perm := @sortedBy_perm _ _ _ RunMetricEvent.metricEventId listed
  rw [direct', descendant', all', direct, descendant, all, toDict_eq_iff, toDict_eq_iff,
    toDict_eq_iff, tally_perm (perm.filter _), tally_perm (perm.filter _), tally_perm perm]
  exact Iff.rfl

/-- A compact bundle agrees with the full bundle of the same facts exactly when its lists count as
the sets of the full one do. -/
theorem compact_agrees_iff {args : ReduceArgs} {compactArgs : CompactRunBundle.Args} {facts : Facts}
    {b : RunBundle} {c : CompactRunBundle} {details : CompactRunBundle.Details}
    (made : ∀ r ∈ facts.receipts, r.Constructed host) (apart : DigestsApart host facts.receipts)
    (sameRun : compactArgs.identity = args.identity) (full : reduce host args facts = .ok b)
    (compact : CompactRunBundle.fromFacts host compactArgs facts.receipts facts.metricEvents
      facts.children = .ok (c, details)) :
    TotalsAgree host b c ↔ CountedOnce host args.identity.runId facts := by
  obtain ⟨receipts, children, attempts, events, receiptUnion, -, attemptsOk, eventUnion, projected⟩ :=
    (reduce_iff made apart).mp full
  have parts := project_ok projected
  have summary := fromFacts_summarizes compact
  rw [sameRun] at summary
  have own : UnionOf RunMetricEvent.metricEventId
      (facts.metricEvents ++ receiptEvents host facts.receipts) events := by
    refine eventUnion.congr fun e => ?_
    rw [List.mem_append, List.mem_append, ← receiptEvents_eq attemptsOk,
      mem_receiptEvents_congr receiptUnion.same]
  have counters := (metrics_agree_iff parts.metrics summary.metrics).trans
    (counters_agree_iff own fun e mem => receiptEvents_kind mem)
  obtain ⟨direct, descendant, all, -⟩ := aggregate_ok parts.aggregation
  have made' : ∀ r ∈ receipts, r.Constructed host := fun r mem => made r ((receiptUnion.same r).mp mem)
  have apart' : DigestsApart host receipts := fun r mem r' mem' =>
    apart r ((receiptUnion.same r).mp mem) r' ((receiptUnion.same r').mp mem')
  -- The receipts of the two bundles are the same when none is listed twice.
  have evidence (once : sortedBy ProviderCallReceipt.providerCallId facts.receipts = receipts) :=
    evidence_agree_iff made' apart' receiptUnion.nodup parts.evidence (once ▸ summary.evidence)
  have listed {β : Type} (f : ProviderCallReceipt → Option β) (perm : facts.receipts.Perm receipts) :
      (receipts.filterMap f).Nodup ↔ (facts.receipts.filterMap f).Nodup :=
    (perm.filterMap f).nodup_iff.symm
  constructor
  · intro agree
    have perm : facts.receipts.Perm receipts := by
      obtain ⟨coverage, coverageOk, summed⟩ := bind_ok summary.coverage
      have counted := coverageSummary_receiptCount summed
      rw [coverageSummary_receiptCount agree.coverage, fromReceipts_receiptCount coverageOk,
        fromReceipts_receiptCount parts.coverage, length_sortedBy] at counted
      exact receiptUnion.perm_iff.mp (natValue_inj counted).symm
    have once := receiptUnion.nodup_iff.mpr perm
    obtain ⟨raws, snapshots⟩ := (evidence (receiptUnion.sortedBy_eq once)).mp
      ⟨agree.receiptCount, agree.rawUsageCount, agree.snapshotCount⟩
    obtain ⟨kinds, attempts⟩ := counters.mp
      ⟨agree.directMetrics, agree.descendantMetrics, agree.allMetrics⟩
    exact ⟨once, (listed _ perm).mp raws, (listed _ perm).mp snapshots, kinds, attempts⟩
  · intro counted
    have perm := receiptUnion.nodup_iff.mp counted.receipts
    have once := receiptUnion.sortedBy_eq counted.receipts
    obtain ⟨receiptCount, rawCount, snapshotCount⟩ := (evidence once).mpr
      ⟨(listed _ perm).mpr counted.rawUsages, (listed _ perm).mpr counted.snapshots⟩
    obtain ⟨directCount, descendantCount, allCount⟩ := counters.mpr ⟨counted.events, counted.attempts⟩
    rw [once] at summary
    obtain ⟨u, sum, allUsage⟩ := summaryUsage_ok summary.allUsage
    obtain ⟨v, sum', directUsage⟩ := summaryUsage_ok summary.directUsage
    obtain ⟨w, sum'', descendantUsage⟩ := summaryUsage_ok summary.descendantUsage
    obtain ⟨coverage, coverageOk, coverageSum⟩ := bind_ok summary.coverage
    obtain ⟨cost, costOk, costSum⟩ := bind_ok summary.cost
    obtain rfl := Except.ok.inj (sum.symm.trans all)
    obtain rfl := Except.ok.inj (sum'.symm.trans direct)
    obtain rfl := Except.ok.inj (sum''.symm.trans descendant)
    obtain rfl := Except.ok.inj (coverageOk.symm.trans parts.coverage)
    obtain rfl := Except.ok.inj (costOk.symm.trans parts.cost)
    exact ⟨allUsage, directUsage, descendantUsage, coverageSum, costSum, directCount,
      descendantCount, allCount, receiptCount, rawCount, snapshotCount⟩

/-! ### An event listed twice -/

def rootEvent : RunMetricEvent where
  executionId := "e"
  attemptId := "a"
  rootRunId := "r"
  ownerRunId := "r"
  parentRunId := none
  kind := .toolCall
  subjectId := "s"
  outcome := .completed
  error := none
  evidenceRefs := []
  metricEventId := "me_" ++ zeros

def rootFacts : Facts := ⟨[], [], [rootEvent, rootEvent]⟩

def rootCompactArgs : CompactRunBundle.Args :=
  ⟨rootArgs.identity, rootArgs.lifecycle,
    ⟨"unknown-model", "model-unavailable", "unknown", .default, 0⟩, .int 1, none⟩

/-- The full bundle, which counts the event once. -/
def rootBundle : RunBundle where
  identity := rootArgs.identity
  lifecycle := rootArgs.lifecycle
  descriptor := ⟨"unknown-model", "model-unavailable", "unknown", .default, 0⟩
  metrics := ⟨[rootEvent], ⟨0, 0, 0, 1, 0, 0, 0, 0, 0⟩, ⟨0, 0, 0, 0, 0, 0, 0, 0, 0⟩,
    ⟨0, 0, 0, 1, 0, 0, 0, 0, 0⟩⟩
  providerCalls := []
  children := []
  aggregation :=
    ⟨[], [], [], ProviderCallUsage.empty, ProviderCallUsage.empty, ProviderCallUsage.empty⟩
  usageSlices := []
  coverage := ⟨.unavailable, 0, 0, 0, 0, []⟩
  cost := ⟨.unavailable, none, []⟩
  legacy := .canonical
  evidence := ⟨[], [], []⟩
  revision := 1
  extensions := []
  bundleId := "rb_" ++ zeros
  bundleDigest := zeros

theorem rootBundle_made : RunBundle.MadeOf asciiHost rootBundle
    (.dict [("revision", .int 1), ("extensions", .dict [])]) rootBundle where
  revision := rfl
  few := by decide
  uniqueCalls := List.nodup_nil
  uniqueChildren := List.nodup_nil
  extensions := by decide +kernel
  bundleId := by decide +kernel
  givenId := rfl
  valid := by decide +kernel
  digest := canonicalSha256_of_short (by decide +kernel)
  givenDigest := rfl
  bytes := canonicalBytes_of_short (by decide +kernel)
  parts := rfl

theorem rootFacts_reduce : reduce asciiHost rootArgs rootFacts = .ok rootBundle := by
  have made := RunBundle.make_iff.mpr rootBundle_made
  simp only [reduce, project, bind_iff]
  refine ⟨[], rfl, [], rfl, [(rootEvent.metricEventId, rootEvent)], by decide +kernel, _, rfl,
    rootBundle.descriptor, by decide +kernel, rootBundle.aggregation, by decide +kernel, [], rfl,
    rootBundle.legacy, by decide +kernel, rootBundle.evidence, by decide +kernel,
    rootBundle.metrics, by decide +kernel, rootBundle.coverage, by decide +kernel,
    rootBundle.cost, by decide +kernel, made⟩
def noTexts : Value := .dict [("count", natValue 0), ("set_sha256", .str zeros)]

def rootParts : List DetailsPart :=
  [⟨"provider_calls", 0, 18, zeros⟩, ⟨"metric_events", 2, 579, zeros⟩, ⟨"children", 0, 12, zeros⟩]


theorem compactSha256_of_room (room : v.room.isSome = true) :
    compactSha256 asciiHost v = .ok zeros := by
  have unlimited : v.room.any (fun n => (none : Option Nat).all (n ≤ ·)) = true := by
    obtain ⟨n, enough⟩ := Option.isSome_iff_exists.mp room
    rw [enough]
    rfl
  obtain ⟨bytes, wrote⟩ := compactBytes_of_room asciiHost unlimited
  rw [compactSha256, wrote]
  rfl

def rootCompact : CompactRunBundle where
  identity := rootArgs.identity
  lifecycle := rootArgs.lifecycle
  descriptor := rootCompactArgs.descriptor
  revision := 1
  providerCallCount := 0
  directProviderCallCount := 0
  descendantProviderCallCount := 0
  aggregationUsage := ProviderCallUsage.empty.toDict
  directUsage := ProviderCallUsage.empty.toDict
  descendantUsage := ProviderCallUsage.empty.toDict
  metrics := .dict [("algorithm", .str RunMetrics.algorithm), ("event_count", natValue 2),
    ("event_set_sha256", .str zeros),
    ("direct", RunMetricCounters.toDict ⟨0, 0, 0, 2, 0, 0, 0, 0, 0⟩),
    ("descendant", RunMetricCounters.toDict ⟨0, 0, 0, 0, 0, 0, 0, 0, 0⟩),
    ("all", RunMetricCounters.toDict ⟨0, 0, 0, 2, 0, 0, 0, 0, 0⟩)]
  coverage := .dict [("status", .str "unavailable"), ("receipt_count", natValue 0),
    ("observed_usage_count", natValue 0), ("missing_usage_count", natValue 0),
    ("uncertain_call_count", natValue 0), ("missing_usage_call_ids", noTexts)]
  cost := .dict [("status", .str "unavailable"), ("basis", .none), ("amount_nano_usd", .none),
    ("currency", .none), ("pricing_snapshot_ids", noTexts)]
  legacy := .dict [("status", .str "canonical")]
  evidence := .dict [("receipt_sha256s", noTexts), ("raw_usage_sha256s", noTexts),
    ("pricing_snapshot_ids", noTexts)]
  children := noTexts
  detailsRef := ⟨"rbd_" ++ zeros, zeros, 609, rootParts⟩
  extensions := []
  bundleId := "rb_" ++ zeros
  bundleDigest := zeros

theorem rootFacts_compact :
    fromFacts asciiHost rootCompactArgs rootFacts.receipts rootFacts.metricEvents
      rootFacts.children = .ok (rootCompact, ⟨[], [rootEvent.toDict, rootEvent.toDict], []⟩) := by
  obtain ⟨bytes, wrote⟩ := @compactBytes_of_room asciiHost (some compactMaxCanonicalBytes)
    (.dict rootCompact.bodyDict) (by decide +kernel)
  obtain ⟨bytes', wrote'⟩ := @compactBytes_of_room asciiHost (some compactMaxCanonicalBytes)
    rootCompact.toDict (by decide +kernel)
  have summary : setSummary asciiHost [] = .ok noTexts := by
    rfl
  have metrics : summaryMetrics asciiHost "r" [rootEvent, rootEvent] =
      .ok rootCompact.metrics := by
    decide +kernel
  have made : CompactRunBundle.make asciiHost rootCompact.identity rootCompact.lifecycle
      rootCompact.descriptor rootCompact.detailsRef
      (.dict (rootCompact.bodyDict ++ [("bundle_digest", .str (asciiHost.sha256 bytes))])) =
      .ok rootCompact := by
    simp only [CompactRunBundle.make, bind_iff, pure_iff, raiseIf_ok, exists_const]
    have bundleId : readBundleId (.str ("rb_" ++ zeros)) = .ok ("rb_" ++ zeros) := by
      decide +kernel
    have digest : safeDigest "bundle_digest" (.str zeros) = .ok zeros := by decide +kernel
    exact ⟨1, rfl, 0, rfl, 0, rfl, 0, rfl, rfl, rfl, "rb_" ++ zeros, bundleId, zeros, digest, bytes,
      wrote, rfl, bytes', wrote', rfl⟩
  have coverage : UsageCoverage.fromReceipts asciiHost [] = .ok rootBundle.coverage := by
    decide +kernel
  have cost : RunCost.fromReceipts asciiHost [] = .ok rootBundle.cost := by decide +kernel
  simp only [fromFacts, bind_iff, pure_iff]
  refine ⟨rootParts, by decide +kernel, zeros, compactSha256_of_room (by decide +kernel),
    rootCompact.detailsRef, by decide +kernel, zeros, compactSha256_of_room (by decide +kernel),
    rootCompact.metrics, metrics, _, by decide +kernel, _, by decide +kernel, _, by decide +kernel,
    rootCompact.coverage, ?_, rootCompact.cost, ?_, rootCompact.evidence, ?_, "rb_" ++ zeros,
    by decide +kernel, bytes, wrote, rootCompact, made, rfl⟩
  · exact bind_iff.mpr ⟨_, coverage, bind_iff.mpr ⟨_, summary, rfl⟩⟩
  · exact bind_iff.mpr ⟨_, cost, bind_iff.mpr ⟨_, summary, rfl⟩⟩
  · simp only [summaryEvidence, bind_iff]
    exact ⟨[], rfl, _, summary, _, summary, _, summary, rfl⟩

/-- The bundles of an event that is listed twice disagree about the number of tool calls. -/
theorem rootFacts_disagree : ∃ b c details, reduce asciiHost rootArgs rootFacts = .ok b ∧
    CompactRunBundle.fromFacts asciiHost rootCompactArgs rootFacts.receipts rootFacts.metricEvents
      rootFacts.children = .ok (c, details) ∧ ¬ TotalsAgree asciiHost b c := by
  refine ⟨rootBundle, rootCompact, _, rootFacts_reduce, rootFacts_compact, fun agree => ?_⟩
  have counted : (rootCompact.metrics.get "all").get "tool_calls" =
      rootBundle.metrics.all.toDict.get "tool_calls" := by rw [agree.allMetrics]
  cases counted

theorem rootFacts_agree_iff :
    TotalsAgree asciiHost rootBundle rootCompact ↔ CountedOnce asciiHost "r" rootFacts :=
  compact_agrees_iff (fun _ mem => absurd mem List.not_mem_nil)
    (fun _ mem => absurd mem List.not_mem_nil) rfl rootFacts_reduce rootFacts_compact
end Unchain.Accounting
