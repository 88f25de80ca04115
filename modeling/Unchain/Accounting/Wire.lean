import Unchain.Accounting.SetUnion

/-!
The wire format of a run tree's bundle.

The totals of a bundle are those of its facts: the constructor computes them again and compares. So
a record with other totals is refused, unless the totals are read as the bundle's own.
-/

namespace Unchain.Accounting

open Lib Lib.Effect Python
open RunMetricCounters (fromDict_ok fromEvents make_ok)

variable {host : BundleHost}

namespace RunBundle

/-! ### What the validation of a projection says -/

structure SliceComputed (host : BundleHost) (calls : List ProviderCallReceipt) (s : UsageSlice) :
    Prop where
  usage : sumUsage host (s.callIds.filterMap (callById calls)) = .ok s.usage
  coverage : UsageCoverage.fromReceipts host (s.callIds.filterMap (callById calls)) = .ok s.coverage
  cost : RunCost.fromReceipts host (s.callIds.filterMap (callById calls)) = .ok s.cost

/-- The totals of a bundle are those of its facts. -/
structure Computed (host : BundleHost) (b : RunBundle) : Prop where
  directMetrics : RunMetricCounters.fromEvents
    (b.metrics.events.filter fun e => e.ownerRunId = b.identity.runId) = .ok b.metrics.direct
  descendantMetrics : RunMetricCounters.fromEvents
    (b.metrics.events.filter fun e => e.ownerRunId ≠ b.identity.runId) = .ok b.metrics.descendant
  directUsage : sumUsage host (directCalls b.identity.runId b.providerCalls) =
    .ok b.aggregation.directUsage
  descendantUsage : sumUsage host (descendantCalls b.identity.runId b.providerCalls) =
    .ok b.aggregation.descendantUsage
  allUsage : sumUsage host b.providerCalls = .ok b.aggregation.allUsage
  coverage : UsageCoverage.fromReceipts host b.providerCalls = .ok b.coverage
  cost : RunCost.fromReceipts host b.providerCalls = .ok b.cost
  slices : ∀ s ∈ b.usageSlices, SliceComputed host b.providerCalls s
  evidence : RunEvidence.fromReceipts host b.providerCalls = .ok b.evidence

theorem forM_ok {α : Type} {f : α → Except PyError Unit} {xs : List α} (h : xs.forM f = .ok ()) :
    ∀ x ∈ xs, f x = .ok () := by
  induction xs with
  | nil => nofun
  | cons x xs ih =>
    obtain ⟨_, first, rest⟩ := bind_ok h
    exact List.forall_mem_cons.mpr ⟨first, ih rest⟩

variable {b : RunBundle} {s : UsageSlice}

theorem checkSlice_ok (h : checkSlice host b s = .ok ()) :
    SliceComputed host b.providerCalls s := by
  simp only [checkSlice, bind_iff, raiseIf_ok, exists_const, Bool.or_eq_false_iff,
    decide_eq_false_iff_not, ne_eq, not_not] at h
  obtain ⟨-, usage, usageOk, coverage, coverageOk, cost, costOk, ⟨sameUsage, sameCoverage⟩, sameCost⟩ :=
    h
  exact ⟨sameUsage ▸ usageOk, sameCoverage ▸ coverageOk, sameCost ▸ costOk⟩

theorem computed_of_valid (h : validateProjection host b = .ok ()) : Computed host b := by
  simp only [validateProjection, checkCounters, checkAggregation, checkTotals, checkSlices,
    checkEvidence, bind_iff, raiseIf_ok, exists_const, Bool.or_eq_false_iff,
    decide_eq_false_iff_not, ne_eq, not_not] at h
  obtain ⟨_, -, _, -, _, -, ⟨direct, directOk, descendant, descendantOk, sameDirect, sameDescendant⟩,
    _, -, ⟨-, directSum, directSumOk, descendantSum, descendantSumOk, allSum, allSumOk,
      ⟨sameDirectSum, sameDescendantSum⟩, sameAllSum⟩,
    ⟨coverage, coverageOk, cost, costOk, sameCoverage, sameCost⟩, _, ⟨-, slices⟩,
    ⟨evidence, evidenceOk, sameEvidence⟩, -⟩ := h
  exact ⟨sameDirect ▸ directOk, sameDescendant ▸ descendantOk, sameDirectSum ▸ directSumOk,
    sameDescendantSum ▸ descendantSumOk, sameAllSum ▸ allSumOk, sameCoverage ▸ coverageOk,
    sameCost ▸ costOk, fun s mem => checkSlice_ok (forM_ok slices s mem), sameEvidence ▸ evidenceOk⟩

variable {b' : RunBundle}

theorem totals_eq_of_computed (computed : Computed host b) (computed' : Computed host b')
    (identity : b'.identity = b.identity) (events : b'.metrics.events = b.metrics.events)
    (calls : b'.providerCalls = b.providerCalls) :
    b'.metrics.direct = b.metrics.direct ∧ b'.metrics.descendant = b.metrics.descendant ∧
    b'.aggregation.directUsage = b.aggregation.directUsage ∧
    b'.aggregation.descendantUsage = b.aggregation.descendantUsage ∧
    b'.aggregation.allUsage = b.aggregation.allUsage ∧
    b'.coverage = b.coverage ∧ b'.cost = b.cost ∧ b'.evidence = b.evidence := by
  have one {α : Type} {x : Except PyError α} {a a' : α} (h : x = .ok a) (h' : x = .ok a') :
      a' = a := Except.ok.inj (h'.symm.trans h)
  obtain ⟨direct, descendant, directUsage, descendantUsage, allUsage, coverage, cost, -, evidence⟩ :=
    computed'
  rw [events, identity] at direct descendant
  rw [calls] at directUsage descendantUsage allUsage coverage cost evidence
  rw [identity] at directUsage descendantUsage
  exact ⟨one computed.directMetrics direct, one computed.descendantMetrics descendant,
    one computed.directUsage directUsage, one computed.descendantUsage descendantUsage,
    one computed.allUsage allUsage, one computed.coverage coverage, one computed.cost cost,
    one computed.evidence evidence⟩

variable {calls : List ProviderCallReceipt} {s' : UsageSlice}

theorem slice_eq_of_computed (computed : SliceComputed host calls s)
    (computed' : SliceComputed host calls s') (same : ∃ usage coverage cost,
      s' = { s with usage := usage, coverage := coverage, cost := cost }) : s' = s := by
  obtain ⟨usage, coverage, cost, rfl⟩ := same
  obtain ⟨u, v, w⟩ := computed
  obtain ⟨u', v', w'⟩ := computed'
  cases s
  simp only at u v w u' v' w'
  obtain rfl := Except.ok.inj (u'.symm.trans u)
  obtain rfl := Except.ok.inj (v'.symm.trans v)
  obtain rfl := Except.ok.inj (w'.symm.trans w)
  rfl

/-! ### A record with other totals -/

def wire (b : RunBundle) (t : Totals) : Value :=
  .dict [("schema", .str schema), ("bundle_id", .str b.bundleId), ("revision", natValue b.revision),
    ("bundle_digest", .str b.bundleDigest), ("identity", b.identity.toDict),
    ("lifecycle", b.lifecycle.toDict), ("descriptor", b.descriptor.toDict),
    ("metrics", .dict [("algorithm", .str RunMetrics.algorithm),
      ("events", .list (b.metrics.events.map RunMetricEvent.toDict)), ("direct", t.directMetrics),
      ("descendant", t.descendantMetrics), ("all", t.allMetrics)]),
    ("provider_calls", .list (b.providerCalls.map ProviderCallReceipt.toDict)),
    ("children", .list (b.children.map RunChild.toDict)),
    ("aggregation", b.aggregation.record t.directUsage t.descendantUsage t.allUsage),
    ("usage_slices", .list (List.zipWith (fun s r => s.record r.1 r.2.1 r.2.2) b.usageSlices t.slices)),
    ("coverage", t.coverage), ("cost", t.cost), ("legacy", b.legacy.toDict),
    ("evidence", t.evidence), ("extensions", .dict b.extensions)]

theorem toDict_eq_wire (b : RunBundle) : b.toDict = wire b b.totals := by
  have slices : b.usageSlices.map UsageSlice.toDict =
      List.zipWith (fun s r => s.record r.1 r.2.1 r.2.2) b.usageSlices b.totals.slices := by
    rw [totals, List.zipWith_map_right, List.zipWith_self]
    rfl
  rw [toDict, wire, slices]
  rfl

structure Reads (host : BundleHost) (t : Totals) (b : RunBundle) : Prop where
  directMetrics : RunMetricCounters.fromDict t.directMetrics = .ok b.metrics.direct
  descendantMetrics : RunMetricCounters.fromDict t.descendantMetrics = .ok b.metrics.descendant
  allMetrics : RunMetricCounters.fromDict t.allMetrics = .ok b.metrics.all
  directUsage : ProviderCallUsage.fromDict host t.directUsage = .ok b.aggregation.directUsage
  descendantUsage : ProviderCallUsage.fromDict host t.descendantUsage =
    .ok b.aggregation.descendantUsage
  allUsage : ProviderCallUsage.fromDict host t.allUsage = .ok b.aggregation.allUsage
  slices : List.Forall₂ (fun s r => ProviderCallUsage.fromDict host r.1 = .ok s.usage ∧
    UsageCoverage.fromDict host r.2.1 = .ok s.coverage ∧
    RunCost.fromDict host r.2.2 = .ok s.cost) b.usageSlices t.slices
  coverage : UsageCoverage.fromDict host t.coverage = .ok b.coverage
  cost : RunCost.fromDict host t.cost = .ok b.cost
  evidence : RunEvidence.fromDict host t.evidence = .ok b.evidence

/-! ### A bundle whose parts were constructed -/

structure Sound (host : BundleHost) (b : RunBundle) : Prop where
  identity : b.identity.Constructed host
  lifecycle : b.lifecycle.Constructed host
  descriptor : b.descriptor.Constructed host
  legacy : b.legacy.Constructed host
  events : ∀ e ∈ b.metrics.events, e.Constructed host
  calls : ∀ r ∈ b.providerCalls, r.Constructed host
  writes : ∀ r ∈ b.providerCalls, ∀ n, r.usage.inputCacheWriteTokens = some n → n ≤ maxSafeInteger
  children : ∀ c ∈ b.children, c.Constructed host
  metrics : ∃ events, RunMetrics.make (.str RunMetrics.algorithm) events b.metrics.direct
    b.metrics.descendant b.metrics.all = .ok b.metrics
  aggregation : ∃ direct descendant all u v w,
    RunAggregation.make host (.str RunAggregation.algorithm) direct descendant all u v w =
      .ok b.aggregation
  slices : ∀ s ∈ b.usageSlices, ∃ ids usage coverage cost arg,
    UsageSlice.make host ids usage coverage cost arg = .ok s
  made : ∃ parts arg, MadeOf host parts arg b

theorem MadeOf.computed {parts : RunBundle} {arg : Value} (made : MadeOf host parts arg b) :
    Computed host b := by
  obtain ⟨direct, descendant, directUsage, descendantUsage, allUsage, coverage, cost, slices,
    evidence⟩ := computed_of_valid made.valid
  exact ⟨direct, descendant, directUsage, descendantUsage, allUsage, coverage, cost, slices, evidence⟩

section

variable (sound : Sound host b)

include sound

theorem Sound.computed : Computed host b := by
  obtain ⟨parts, arg, made⟩ := sound.made
  exact made.computed

theorem Sound.eventsSorted :
    sortedBy RunMetricEvent.metricEventId b.metrics.events = b.metrics.events := by
  obtain ⟨events, made⟩ := sound.metrics
  simp only [RunMetrics.make, bind_iff, raiseIf_ok, exists_const, pure_iff] at made
  obtain ⟨-, -, -, _, -, -, same⟩ := made
  rw [← same, sortedBy_sortedBy]

theorem Sound.metricsAgain :
    RunMetrics.make (.str RunMetrics.algorithm) b.metrics.events b.metrics.direct
      b.metrics.descendant b.metrics.all = .ok b.metrics := by
  obtain ⟨events, made⟩ := sound.metrics
  have sorted := sound.eventsSorted
  simp only [RunMetrics.make, bind_iff, raiseIf_ok, exists_const, pure_iff] at made ⊢
  obtain ⟨known, few, unique, expected, expectedOk, all, same⟩ := made
  have events' : sortedBy RunMetricEvent.metricEventId events = b.metrics.events := by
    rw [← same]
  rw [events'] at few unique expectedOk
  rw [sorted]
  exact ⟨known, few, unique, expected, expectedOk, all, rfl⟩

/-- The three lists are in order of their ids. -/
theorem Sound.sorted :
    sortedBy ProviderCallReceipt.providerCallId b.providerCalls = b.providerCalls ∧
    sortedBy RunChild.runId b.children = b.children ∧
    b.usageSlices.Pairwise fun s s' => s.sortKey ≤ s'.sortKey := by
  obtain ⟨parts, arg, made⟩ := sound.made
  rw [made.parts]
  exact ⟨sortedBy_sortedBy _, sortedBy_sortedBy _, sorted_sortedBy _⟩

theorem Sound.callsAgain :
    (b.providerCalls.map ProviderCallReceipt.toDict).mapM (ProviderCallReceipt.fromDict host) =
      .ok b.providerCalls :=
  mapM_map_ok fun r mem => ProviderCallReceipt.fromDict_toDict (sound.calls r mem) (sound.writes r mem)

theorem Sound.childrenAgain :
    (b.children.map RunChild.toDict).mapM (RunChild.fromDict host) = .ok b.children :=
  mapM_map_ok fun c mem => RunChild.fromDict_toDict (sound.children c mem)

theorem Sound.eventsAgain :
    (b.metrics.events.map RunMetricEvent.toDict).mapM (RunMetricEvent.fromDict host) =
      .ok b.metrics.events :=
  mapM_map_ok fun e mem => RunMetricEvent.fromDict_toDict (sound.events e mem)

end

/-! ### Its totals are read back -/

theorem countersAgain {events : List RunMetricEvent} {c : RunMetricCounters}
    (h : fromEvents events = .ok c) : RunMetricCounters.fromDict c.toDict = .ok c := by
  simp only [RunMetricCounters.fromDict, bind_iff]
  exact ⟨_, strictRecord_of_keys rfl, (make_ok h).2⟩

variable {receipts : List ProviderCallReceipt} {u : ProviderCallUsage}

theorem usageAgain (made : ∀ r ∈ receipts, r.Constructed host) (h : sumUsage host receipts = .ok u)
    :
    ProviderCallUsage.fromDict host u.toDict = .ok u := by
  have items : ∀ x ∈ receipts.map ProviderCallReceipt.usage,
      ∃ args, ProviderCallUsage.make host args = .ok x := by
    intro x mem
    obtain ⟨r, mem', rfl⟩ := List.mem_map.mp mem
    exact (made r mem').usage
  obtain ⟨-, bounded⟩ := ProviderCallUsage.sum_ok items h
  have written : ∃ args, ProviderCallUsage.make host args = .ok u := by
    rw [sumUsage, ProviderCallUsage.sum] at h
    split at h
    · exact ⟨_, h⟩
    · exact ⟨_, h⟩
  obtain ⟨args, again⟩ := written
  refine ProviderCallUsage.fromDict_toDict (ProviderCallUsage.made_of_make again fun n known => ?_)
  exact bounded n (by simp [ProviderCallUsage.fieldValues, known])

theorem coverageAgain {c : UsageCoverage} (h : UsageCoverage.fromReceipts host receipts = .ok c) :
    UsageCoverage.fromDict host c.toDict = .ok c :=
  UsageCoverage.fromDict_toDict h

theorem costAgain {c : RunCost} (h : RunCost.fromReceipts host receipts = .ok c) :
    RunCost.fromDict host c.toDict = .ok c := by
  rw [RunCost.fromReceipts] at h
  split at h
  · exact RunCost.fromDict_toDict h
  · exact RunCost.fromDict_toDict h

theorem evidenceAgain {e : RunEvidence} (h : RunEvidence.fromReceipts host receipts = .ok e) :
    RunEvidence.fromDict host e.toDict = .ok e := by
  obtain ⟨digests, -, made⟩ := bind_ok h
  exact RunEvidence.fromDict_toDict made

theorem Sound.reads (sound : Sound host b) : Reads host b.totals b := by
  have computed := sound.computed
  have direct : ∀ r ∈ directCalls b.identity.runId b.providerCalls, r.Constructed host :=
    fun r mem => sound.calls r (List.mem_of_mem_filter mem)
  have descendant : ∀ r ∈ descendantCalls b.identity.runId b.providerCalls, r.Constructed host :=
    fun r mem => sound.calls r (List.mem_of_mem_filter mem)
  have all : fromEvents b.metrics.events = .ok b.metrics.all := by
    have again := sound.metricsAgain
    simp only [RunMetrics.make, bind_iff, raiseIf_ok, exists_const, pure_iff,
      decide_eq_false_iff_not, ne_eq, not_not] at again
    obtain ⟨-, -, -, expected, expectedOk, rfl, -⟩ := again
    rw [sound.eventsSorted] at expectedOk
    exact expectedOk
  refine ⟨countersAgain computed.directMetrics, countersAgain computed.descendantMetrics,
    countersAgain all, usageAgain direct computed.directUsage,
    usageAgain descendant computed.descendantUsage, usageAgain sound.calls computed.allUsage, ?_,
    coverageAgain computed.coverage, costAgain computed.cost, evidenceAgain computed.evidence⟩
  rw [totals, List.forall₂_map_right_iff, List.forall₂_same]
  intro s mem
  have slice := computed.slices s mem
  have calls : ∀ r ∈ s.callIds.filterMap (callById b.providerCalls), r.Constructed host := by
    intro r mem
    obtain ⟨id, -, found⟩ := List.mem_filterMap.mp mem
    exact sound.calls r (List.mem_of_find?_eq_some found)
  exact ⟨usageAgain calls slice.usage, coverageAgain slice.coverage, costAgain slice.cost⟩

/-! ### Reading a record with other totals -/

variable {all descendant direct : Value}

theorem metrics_of_record (sound : Sound host b) {m : RunMetrics}
    (h : RunMetrics.fromDict host (.dict [("algorithm", .str RunMetrics.algorithm),
      ("events", .list (b.metrics.events.map RunMetricEvent.toDict)), ("direct", direct),
      ("descendant", descendant), ("all", all)]) = .ok m) :
    RunMetricCounters.fromDict direct = .ok m.direct ∧
    RunMetricCounters.fromDict descendant = .ok m.descendant ∧
    RunMetricCounters.fromDict all = .ok m.all ∧ m.events = b.metrics.events ∧
    m.all = b.metrics.all := by
  have again := sound.metricsAgain
  have eventsOk := sound.eventsAgain
  simp only [RunMetrics.fromDict, RunMetrics.make, bind_iff, raiseIf_ok, exists_const,
    pure_iff, decide_eq_false_iff_not, ne_eq, not_not] at h again
  obtain ⟨raw, strict, items, itemsOk, events, read, direct', directOk, descendant', descendantOk,
    all', allOk, -, -, -, expected, expectedOk, rfl, rfl⟩ := h
  obtain ⟨rfl, -⟩ := strictRecord_ok strict
  obtain rfl := Except.ok.inj itemsOk
  obtain rfl := Except.ok.inj (read.symm.trans eventsOk)
  obtain ⟨-, -, -, expected', expectedOk', same, -⟩ := again
  refine ⟨directOk, descendantOk, allOk, sound.eventsSorted, ?_⟩
  rw [same]
  exact Except.ok.inj (expectedOk.symm.trans expectedOk')

theorem aggregation_of_record (sound : Sound host b) {a : RunAggregation}
    (h : RunAggregation.fromDict host (b.aggregation.record direct descendant all) = .ok a) :
    ProviderCallUsage.fromDict host direct = .ok a.directUsage ∧
    ProviderCallUsage.fromDict host descendant = .ok a.descendantUsage ∧
    ProviderCallUsage.fromDict host all = .ok a.allUsage ∧
    a = { b.aggregation with
      directUsage := a.directUsage, descendantUsage := a.descendantUsage, allUsage := a.allUsage } := by
  obtain ⟨_, _, _, _, _, _, made⟩ := sound.aggregation
  simp only [RunAggregation.fromDict, bind_iff] at h
  obtain ⟨raw, strict, d, dOk, e, eOk, f, fOk, u, uOk, v, vOk, w, wOk, h⟩ := h
  obtain ⟨rfl, -⟩ := strictRecord_ok strict
  obtain rfl := Except.ok.inj dOk
  obtain rfl := Except.ok.inj eOk
  obtain rfl := Except.ok.inj fOk
  have again := @RunAggregation.make_again host _ _ _ _ _ _ _ u v w _ made
  obtain rfl := Except.ok.inj (again.symm.trans h)
  exact ⟨uOk, vOk, wOk, rfl⟩

/-- A slice is read with the totals it is given. -/
theorem slice_of_record {usage coverage cost : Value}
    (made : ∃ ids u c p arg, UsageSlice.make host ids u c p arg = .ok s)
    (h : UsageSlice.fromDict host (s.record usage coverage cost) = .ok s') :
    ProviderCallUsage.fromDict host usage = .ok s'.usage ∧
    UsageCoverage.fromDict host coverage = .ok s'.coverage ∧
    RunCost.fromDict host cost = .ok s'.cost ∧
    s' = { s with usage := s'.usage, coverage := s'.coverage, cost := s'.cost } := by
  obtain ⟨ids, u, c, p, arg, made⟩ := made
  simp only [UsageSlice.fromDict, bind_iff] at h
  obtain ⟨raw, strict, items, itemsOk, u', uOk, c', cOk, p', pOk, h⟩ := h
  obtain ⟨rfl, -⟩ := strictRecord_ok strict
  obtain rfl := Except.ok.inj itemsOk
  have again := @UsageSlice.make_again host ids u u' c c' p p' arg s made usage coverage cost
  obtain rfl := Except.ok.inj (again.symm.trans h)
  exact ⟨uOk, cOk, pOk, rfl⟩

variable {records : List (Value × Value × Value)} {slices : List UsageSlice}

theorem slices_of_records {read : List UsageSlice} (length : records.length = slices.length)
    (made : ∀ s ∈ slices, ∃ ids u c p arg, UsageSlice.make host ids u c p arg = .ok s)
    (h : (List.zipWith (fun s r => s.record r.1 r.2.1 r.2.2) slices records).mapM
      (UsageSlice.fromDict host) = .ok read) (computed : ∀ s ∈ slices, SliceComputed host calls s)
    (computed' : ∀ s ∈ read, SliceComputed host calls s) :
    read = slices ∧ List.Forall₂ (fun s r => ProviderCallUsage.fromDict host r.1 = .ok s.usage ∧
      UsageCoverage.fromDict host r.2.1 = .ok s.coverage ∧
      RunCost.fromDict host r.2.2 = .ok s.cost) slices records := by
  induction slices generalizing records read with
  | nil =>
    obtain rfl := List.length_eq_zero_iff.mp length
    cases h
    exact ⟨rfl, .nil⟩
  | cons s slices ih =>
    cases records with
    | nil => cases length
    | cons r records =>
      simp only [List.zipWith_cons_cons, List.mapM_cons, bind_iff, pure_iff] at h
      obtain ⟨s', first, rest, others, rfl⟩ := h
      rw [List.forall_mem_cons] at made computed computed'
      obtain ⟨usage, coverage, cost, same⟩ := slice_of_record made.1 first
      obtain rfl := slice_eq_of_computed computed.1 computed'.1 ⟨_, _, _, same⟩
      obtain ⟨rfl, reads⟩ := ih (Nat.succ.inj length) made.2 others computed.2 computed'.2
      exact ⟨rfl, .cons ⟨usage, coverage, cost⟩ reads⟩

variable {t : Totals}

/-- A bundle that is read from a record with other totals is the bundle itself, whose totals the
records are read as. -/
theorem eq_of_fromDict_wire (sound : Sound host b) (length : t.slices.length = b.usageSlices.length)
    (h : fromDict host (wire b t) = .ok b') : b' = b ∧ Reads host t b := by
  simp only [fromDict, bind_iff, raiseIf_ok, exists_const] at h
  obtain ⟨raw, strict, -, callItems, callItemsOk, childItems, childItemsOk, sliceItems, sliceItemsOk,
    identity, identityOk, lifecycle, lifecycleOk, descriptor, descriptorOk, metrics, metricsOk,
    calls, callsOk, children, childrenOk, aggregation, aggregationOk, slices, slicesOk,
    coverage, coverageOk, cost, costOk, legacy, legacyOk, evidence, evidenceOk, h⟩ := h
  obtain ⟨rfl, -⟩ := strictRecord_ok strict
  obtain rfl := Except.ok.inj callItemsOk
  obtain rfl := Except.ok.inj childItemsOk
  obtain rfl := Except.ok.inj sliceItemsOk
  obtain rfl := Except.ok.inj ((RunIdentity.fromDict_toDict sound.identity).symm.trans identityOk)
  obtain rfl := Except.ok.inj ((RunLifecycle.fromDict_toDict sound.lifecycle).symm.trans lifecycleOk)
  obtain rfl := Except.ok.inj
    ((RunDescriptor.fromDict_toDict sound.descriptor).symm.trans descriptorOk)
  obtain rfl := Except.ok.inj ((LegacyAttribution.fromDict_toDict sound.legacy).symm.trans legacyOk)
  obtain rfl := Except.ok.inj (sound.callsAgain.symm.trans callsOk)
  obtain rfl := Except.ok.inj (sound.childrenAgain.symm.trans childrenOk)
  obtain ⟨directMetrics, descendantMetrics, allMetrics, events, all⟩ := metrics_of_record sound metricsOk
  obtain ⟨directUsage, descendantUsage, allUsage, ids⟩ := aggregation_of_record sound aggregationOk
  have made := make_iff.mp h
  have parts := made.parts
  obtain ⟨callsSorted, childrenSorted, slicesSorted⟩ := sound.sorted
  -- the facts of the bundle that was read
  have sameIdentity : b'.identity = b.identity := by rw [parts]
  have sameMetrics : b'.metrics = metrics := by rw [parts]
  have sameAggregation : b'.aggregation = aggregation := by rw [parts]
  have sameSlices : b'.usageSlices = sortedBy UsageSlice.sortKey slices := by rw [parts]
  have sameCoverage : b'.coverage = coverage := by rw [parts]
  have sameCost : b'.cost = cost := by rw [parts]
  have sameEvidence : b'.evidence = evidence := by rw [parts]
  have sameCalls : b'.providerCalls = b.providerCalls := by
    rw [parts]
    exact callsSorted
  have sameChildren : b'.children = b.children := by
    rw [parts]
    exact childrenSorted
  -- hence its totals
  obtain ⟨eqDirect, eqDescendant, eqDirectUsage, eqDescendantUsage, eqAllUsage, eqCoverage, eqCost,
    eqEvidence⟩ := totals_eq_of_computed sound.computed made.computed sameIdentity
      (by rw [sameMetrics, events]) sameCalls
  rw [sameMetrics] at eqDirect eqDescendant
  rw [sameAggregation] at eqDirectUsage eqDescendantUsage eqAllUsage
  rw [sameCoverage] at eqCoverage
  rw [sameCost] at eqCost
  rw [sameEvidence] at eqEvidence
  have computed : ∀ s ∈ slices, SliceComputed host b.providerCalls s := by
    intro s mem
    rw [← sameCalls]
    exact made.computed.slices s (by rw [sameSlices]; exact mem_sortedBy.mpr mem)
  obtain ⟨rfl, sliceReads⟩ := slices_of_records length sound.slices slicesOk sound.computed.slices
    computed
  rw [sortedBy_of_sorted slicesSorted] at sameSlices
  have eqMetrics : metrics = b.metrics := RunMetrics.ext events eqDirect eqDescendant all
  have eqAggregation : aggregation = b.aggregation := by
    rw [ids, eqDirectUsage, eqDescendantUsage, eqAllUsage]
  subst eqMetrics eqAggregation eqCoverage eqCost eqEvidence
  -- what the constructor adds is determined by the rest
  obtain ⟨parts₀, arg₀, made₀⟩ := sound.made
  have identity₀ : parts₀.identity = b.identity := by rw [made₀.parts]
  have revision : b'.revision = b.revision := by
    have given := made₀.revision
    rw [positiveRevision_ok given] at given
    exact Except.ok.inj (made.revision.symm.trans given)
  have extensions : b'.extensions = b.extensions :=
    Except.ok.inj (made.extensions.symm.trans (freezeExtensions_again made₀.extensions))
  have bundleId : b'.bundleId = b.bundleId := by
    have given := made₀.bundleId
    rw [identity₀] at given
    exact Except.ok.inj (made.bundleId.symm.trans given)
  have lifecycle : b'.lifecycle = b.lifecycle := by rw [parts]
  have descriptor : b'.descriptor = b.descriptor := by rw [parts]
  have legacy : b'.legacy = b.legacy := by rw [parts]
  have body : b'.bodyDict = b.bodyDict := by
    simp only [bodyDict, revision, extensions, bundleId, lifecycle, descriptor, legacy,
      sameIdentity, sameMetrics, sameAggregation, sameSlices, sameCoverage, sameCost, sameEvidence,
      sameCalls, sameChildren]
  have digest : b'.bundleDigest = b.bundleDigest := by
    have given := made.digest
    rw [body] at given
    exact Except.ok.inj (given.symm.trans made₀.digest)
  refine ⟨RunBundle.ext sameIdentity lifecycle descriptor sameMetrics sameCalls sameChildren
    sameAggregation sameSlices sameCoverage sameCost legacy sameEvidence revision extensions bundleId
    digest, ?_⟩
  exact ⟨directMetrics, descendantMetrics, allMetrics, directUsage, descendantUsage, allUsage,
    sliceReads, coverageOk, costOk, evidenceOk⟩

theorem slices_again
    (made : ∀ s ∈ slices, ∃ ids u c p arg, UsageSlice.make host ids u c p arg = .ok s)
    (reads : List.Forall₂ (fun s r => ProviderCallUsage.fromDict host r.1 = .ok s.usage ∧
      UsageCoverage.fromDict host r.2.1 = .ok s.coverage ∧
      RunCost.fromDict host r.2.2 = .ok s.cost) slices records) :
    (List.zipWith (fun s r => s.record r.1 r.2.1 r.2.2) slices records).mapM
      (UsageSlice.fromDict host) = .ok slices := by
  rw [mapM_iff]
  induction reads with
  | nil => exact .nil
  | @cons s r slices records first _ ih =>
    rw [List.forall_mem_cons] at made
    obtain ⟨⟨ids, u, c, p, arg, here⟩, later⟩ := made
    refine .cons ?_ (ih later)
    simp only [UsageSlice.fromDict, bind_iff]
    exact ⟨_, strictRecord_of_keys rfl, _, rfl, _, first.1, _, first.2.1, _, first.2.2,
      UsageSlice.make_again here _ _ _⟩

/-- A record whose totals are read as the bundle's own is read as the bundle. -/
theorem fromDict_wire_of_reads (sound : Sound host b) (reads : Reads host t b) :
    fromDict host (wire b t) = .ok b := by
  obtain ⟨callsSorted, childrenSorted, slicesSorted⟩ := sound.sorted
  obtain ⟨parts₀, arg₀, made₀⟩ := sound.made
  have identity₀ : parts₀.identity = b.identity := by rw [made₀.parts]
  obtain ⟨_, _, _, _, _, _, aggregation⟩ := sound.aggregation
  have metrics : RunMetrics.fromDict host (.dict [("algorithm", .str RunMetrics.algorithm),
      ("events", .list (b.metrics.events.map RunMetricEvent.toDict)), ("direct", t.directMetrics),
      ("descendant", t.descendantMetrics), ("all", t.allMetrics)]) = .ok b.metrics := by
    simp only [RunMetrics.fromDict, bind_iff]
    exact ⟨_, strictRecord_of_keys rfl, _, rfl, _, sound.eventsAgain, _, reads.directMetrics,
      _, reads.descendantMetrics, _, reads.allMetrics, sound.metricsAgain⟩
  have aggregated : RunAggregation.fromDict host
      (b.aggregation.record t.directUsage t.descendantUsage t.allUsage) = .ok b.aggregation := by
    simp only [RunAggregation.fromDict, bind_iff]
    exact ⟨_, strictRecord_of_keys rfl, _, rfl, _, rfl, _, rfl, _, reads.directUsage,
      _, reads.descendantUsage, _, reads.allUsage, RunAggregation.make_again aggregation⟩
  have slices := slices_again sound.slices reads.slices
  have made : make host ⟨b.identity, b.lifecycle, b.descriptor, b.metrics, b.providerCalls, b.children,
      b.aggregation, b.usageSlices, b.coverage, b.cost, b.legacy, b.evidence, 0, [], "", ""⟩
      (wire b t) = .ok b := by
    refine make_iff.mpr ⟨?_, made₀.few, made₀.uniqueCalls, made₀.uniqueChildren,
      freezeExtensions_again made₀.extensions, ?_, ?_, made₀.valid, made₀.digest, ?_, made₀.bytes, ?_⟩
    · have given := made₀.revision
      rw [positiveRevision_ok given] at given
      exact given
    · have given := made₀.bundleId
      rw [identity₀] at given
      exact given
    · obtain ⟨digest, hex, same⟩ := deterministicBundleId_ok made₀.bundleId
      have given : checkGivenId host "bundle_id" "bundle_id does not match its deterministic identity"
          b.bundleId (.str b.bundleId) = .ok () := by
        rw [same]
        exact checkGivenId_again hex (by decide) (by decide)
      exact given
    · have hex := canonicalSha256_hex made₀.digest
      simp only [checkGivenDigest]
      split
      · rw [bind_iff]
        exact ⟨_, sha256Field_str hex, by simp⟩
      · rfl
    · rw [callsSorted, childrenSorted, sortedBy_of_sorted slicesSorted]
  simp only [fromDict, bind_iff, raiseIf_ok, exists_const]
  exact ⟨_, strictRecord_of_keys rfl, rfl, _, rfl, _, rfl, _, rfl,
    _, RunIdentity.fromDict_toDict sound.identity, _, RunLifecycle.fromDict_toDict sound.lifecycle,
    _, RunDescriptor.fromDict_toDict sound.descriptor, _, metrics, _, sound.callsAgain,
    _, sound.childrenAgain, _, aggregated, _, slices, _, reads.coverage, _, reads.cost,
    _, LegacyAttribution.fromDict_toDict sound.legacy, _, reads.evidence, made⟩

/-! ### What the reducer makes -/

variable {args : ReduceArgs} {facts : Facts}

theorem of_reduce (h : reduce host args facts = .ok b) :
    ∃ receipts children events, (∀ r ∈ receipts, r ∈ facts.receipts) ∧
      (∀ c ∈ children, c ∈ facts.children) ∧
      (∀ e ∈ events, e ∈ facts.metricEvents ∨ ∃ r, metricEventFromReceipt host r = .ok e) ∧
      project host args receipts children events = .ok b := by
  simp only [reduce, bind_iff] at h
  obtain ⟨receiptById, receiptsOk, childById, childrenOk, eventById, eventsOk, allEvents, written,
    projected⟩ := h
  have given {α : Type} {key : α → String} {agree : α → α → Except PyError Unit} {xs : List α}
      {m : List (String × α)} (h : KeyedUnion.insertAll key agree [] xs = .ok m) :
      ∀ x ∈ KeyedUnion.ordered m, x ∈ xs := fun x mem =>
    (KeyedUnion.mem_of_insertAll h (KeyedUnion.mem_ordered.mp mem)).resolve_left nofun
  refine ⟨_, _, _, given receiptsOk, given childrenOk, ?_, projected⟩
  obtain ⟨attempts, attemptsOk, added⟩ := addModelAttempts_iff.mp written
  intro e mem
  obtain old | new := KeyedUnion.mem_of_insertAll added (KeyedUnion.mem_ordered.mp mem)
  · exact .inl ((KeyedUnion.mem_of_insertAll eventsOk old).resolve_left nofun)
  · obtain ⟨r, -, made⟩ := mem_of_mapM attemptsOk e new
    exact .inr ⟨r, made⟩

/-- What a reduction is given has been constructed, and the cache-write totals of its receipts,
which their constructor may have filled in, are within the limit of a counter. -/
structure Given (host : BundleHost) (args : ReduceArgs) (facts : Facts) : Prop where
  identity : args.identity.Constructed host
  lifecycle : args.lifecycle.Constructed host
  descriptor : ∀ d, args.descriptor = some d → d.Constructed host
  legacy : ∀ l, args.legacy = some l → l.Constructed host
  receipts : ∀ r ∈ facts.receipts, r.Constructed host
  writes : ∀ r ∈ facts.receipts, ∀ n, r.usage.inputCacheWriteTokens = some n → n ≤ maxSafeInteger
  children : ∀ c ∈ facts.children, c.Constructed host
  events : ∀ e ∈ facts.metricEvents, e.Constructed host

theorem constructed_of_metricEvent {r : ProviderCallReceipt} {e : RunMetricEvent}
    (h : metricEventFromReceipt host r = .ok e) : e.Constructed host := by
  have made := h
  simp only [metricEventFromReceipt, RunMetricEvent.make, bind_iff, raiseIf_ok, exists_const,
    pure_iff] at made
  obtain ⟨_, -, _, -, _, -, _, -, _, -, _, -, _, -, _, -, -, -, -, _, -, _, -, same⟩ := made
  have error : e.error = none := by rw [← same]
  have evidence : e.evidenceRefs = [] := by
    rw [← same]
    rfl
  have event : ∃ evidenceRefs arg, RunMetricEvent.make host e.error evidenceRefs arg = .ok e := by
    rw [error]
    exact ⟨[], _, h⟩
  refine ⟨?_, ?_, event⟩
  · rw [error]
    intro _ given
    cases given
  · rw [evidence]
    exact List.forall_mem_nil _

theorem sliceOf_constructed {group : SliceKey × List ProviderCallReceipt}
    (h : sliceOf host group = .ok s) :
    ∃ ids u c p arg, UsageSlice.make host ids u c p arg = .ok s := by
  simp only [sliceOf, bind_iff] at h
  obtain ⟨u, -, c, -, p, -, made⟩ := h
  exact ⟨_, u, c, p, _, made⟩

theorem sound_of_reduce (given : Given host args facts) (h : reduce host args facts = .ok b) :
    Sound host b := by
  obtain ⟨receipts, children, events, receiptsGiven, childrenGiven, eventsGiven, projected⟩ :=
    of_reduce h
  have parts := project_ok projected
  have metrics : ∃ events', RunMetrics.make (.str RunMetrics.algorithm) events' b.metrics.direct
      b.metrics.descendant b.metrics.all = .ok b.metrics ∧ ∀ e ∈ b.metrics.events, e ∈ events := by
    have made := parts.metrics
    simp only [RunMetrics.fromEvents, bind_iff] at made
    obtain ⟨direct, directOk, descendant, descendantOk, all, allOk, made⟩ := made
    have same := made
    simp only [RunMetrics.make, bind_iff, raiseIf_ok, exists_const, pure_iff] at same
    obtain ⟨-, -, -, _, -, -, same⟩ := same
    refine ⟨sortedBy RunMetricEvent.metricEventId events, ?_, fun e mem => ?_⟩
    · rw [← same] at made ⊢
      exact made
    · rw [← same] at mem
      exact mem_sortedBy.mp (mem_sortedBy.mp mem)
  obtain ⟨events', metricsMade, eventsMem⟩ := metrics
  obtain ⟨slices, slicesOk, sameSlices⟩ := parts.slices
  obtain ⟨parts₀, made⟩ := parts.made
  refine ⟨parts.identity ▸ given.identity, parts.lifecycle ▸ given.lifecycle, ?_, ?_, ?_, ?_, ?_, ?_,
    ⟨events', metricsMade⟩, ?_, ?_, ⟨parts₀, _, made⟩⟩
  · have made := parts.descriptor
    cases present : args.descriptor with
    | none =>
      rw [present] at made
      exact ⟨_, made⟩
    | some d =>
      rw [present] at made
      exact Except.ok.inj made ▸ given.descriptor d present
  · have made := parts.legacy
    cases present : args.legacy with
    | none =>
      rw [present] at made
      simp only [orDefault, defaultLegacy] at made
      split at made
      · exact ⟨_, made⟩
      · exact ⟨_, made⟩
    | some l =>
      rw [present] at made
      exact Except.ok.inj made ▸ given.legacy l present
  · intro e mem
    obtain here | ⟨r, made⟩ := eventsGiven e (eventsMem e mem)
    · exact given.events e here
    · exact constructed_of_metricEvent made
  · intro r mem
    rw [parts.providerCalls] at mem
    exact given.receipts r (receiptsGiven r (mem_sortedBy.mp mem))
  · intro r mem
    rw [parts.providerCalls] at mem
    exact given.writes r (receiptsGiven r (mem_sortedBy.mp mem))
  · intro c mem
    rw [parts.children] at mem
    exact given.children c (childrenGiven c (mem_sortedBy.mp mem))
  · have made := parts.aggregation
    simp only [aggregate, bind_iff] at made
    obtain ⟨u, -, v, -, w, -, made⟩ := made
    exact ⟨_, _, _, u, v, w, made⟩
  · intro s mem
    rw [sameSlices] at mem
    obtain ⟨group, -, made⟩ := mem_of_mapM slicesOk s (mem_sortedBy.mp mem)
    exact sliceOf_constructed made

/-! ### The totals that a record may have -/

/-- The record has the counters, or all of them but a cache-write total that both parts by their
time to live determine. -/
def SameUsage (v : Value) (u : ProviderCallUsage) : Prop :=
  ∃ args, ProviderCallUsage.readArgs v = .ok args ∧ (args = u.toArgs ∨
    args = { u.toArgs with inputCacheWriteTokens := .none } ∧
      u.inputCacheWrite5mTokens.isSome ∧ u.inputCacheWrite1hTokens.isSome)

/-- The records are those of the bundle: lists of ids may be in another order, and a cache-write
total may be left out where it is determined. -/
structure SameTotals (t : Totals) (b : RunBundle) : Prop where
  directMetrics : SameRecord [] t.directMetrics b.metrics.direct.toDict
  descendantMetrics : SameRecord [] t.descendantMetrics b.metrics.descendant.toDict
  allMetrics : SameRecord [] t.allMetrics b.metrics.all.toDict
  directUsage : SameUsage t.directUsage b.aggregation.directUsage
  descendantUsage : SameUsage t.descendantUsage b.aggregation.descendantUsage
  allUsage : SameUsage t.allUsage b.aggregation.allUsage
  slices : List.Forall₂ (fun s r => SameUsage r.1 s.usage ∧
    SameRecord ["missing_usage_call_ids"] r.2.1 s.coverage.toDict ∧
    SameRecord ["pricing_snapshot_ids"] r.2.2 s.cost.toDict) b.usageSlices t.slices
  coverage : SameRecord ["missing_usage_call_ids"] t.coverage b.coverage.toDict
  cost : SameRecord ["pricing_snapshot_ids"] t.cost b.cost.toDict
  evidence : SameRecord RunEvidence.fields t.evidence b.evidence.toDict

theorem sameUsage_of_fromDict {v : Value} (h : ProviderCallUsage.fromDict host v = .ok u) :
    SameUsage v u := by
  obtain ⟨args, read, made⟩ := bind_ok h
  obtain ⟨-, own | ⟨filled, m, n, five, one, -⟩⟩ := ProviderCallUsage.make_args made
  · exact ⟨args, read, .inl own⟩
  · exact ⟨args, read, .inr ⟨filled, by rw [five]; rfl, by rw [one]; rfl⟩⟩

theorem Reads.same (reads : Reads host t b) : SameTotals t b where
  directMetrics := (fromDict_ok reads.directMetrics).1
  descendantMetrics := (fromDict_ok reads.descendantMetrics).1
  allMetrics := (fromDict_ok reads.allMetrics).1
  directUsage := sameUsage_of_fromDict reads.directUsage
  descendantUsage := sameUsage_of_fromDict reads.descendantUsage
  allUsage := sameUsage_of_fromDict reads.allUsage
  slices := reads.slices.imp fun _ _ read => ⟨sameUsage_of_fromDict read.1,
    UsageCoverage.fromDict_ok read.2.1, RunCost.fromDict_ok read.2.2⟩
  coverage := UsageCoverage.fromDict_ok reads.coverage
  cost := RunCost.fromDict_ok reads.cost
  evidence := RunEvidence.fromDict_ok reads.evidence

/-- The bundle of constructed facts passes the validation and is read back from its record; from a
record with other totals nothing else is read. -/
theorem wire_faithful {args : ReduceArgs} {facts : Facts} {b : RunBundle}
    (given : Given host args facts) (h : reduce host args facts = .ok b) :
    validateProjection host { b with bundleDigest := "" } = .ok () ∧
    fromDict host b.toDict = .ok b ∧
    ∀ t : Totals, t.slices.length = b.usageSlices.length →
      ∀ b', fromDict host (wire b t) = .ok b' → b' = b ∧ SameTotals t b := by
  have sound := sound_of_reduce given h
  refine ⟨?_, ?_, fun t length b' read => ?_⟩
  · obtain ⟨parts, arg, made⟩ := sound.made
    exact made.valid
  · rw [toDict_eq_wire]
    exact fromDict_wire_of_reads sound sound.reads
  · obtain ⟨same, reads⟩ := eq_of_fromDict_wire sound length read
    exact ⟨same, reads.same⟩

/-! ### A record without a cache-write total -/

/-- No token written to a cache, of either time to live; nothing else is known. -/
def cacheUsage : ProviderCallUsage :=
  ⟨none, none, some 0, some 0, some 0, none, none, none, none, none, .providerObservedPartial⟩

def cacheReceipt : ProviderCallReceipt := { rootReceipt with usage := cacheUsage }

def cacheFacts : Facts := ⟨[cacheReceipt], [], []⟩

def cacheCall : String := "pc_" ++ zeros

def cacheAttempt : RunMetricEvent :=
  ⟨"e", "a", "r", "r", none, .modelAttempt, cacheCall, .uncertain, none, [], "me_" ++ zeros⟩

def cacheSlice : UsageSlice :=
  ⟨"openai", "m", none, [cacheCall], cacheUsage, ⟨.unavailable, 1, 0, 1, 1, [cacheCall]⟩,
    ⟨.unavailable, none, []⟩⟩

def cacheBundle : RunBundle where
  identity := rootArgs.identity
  lifecycle := rootArgs.lifecycle
  descriptor := ⟨"unknown-model", "model-unavailable", "unknown", .default, 0⟩
  metrics := ⟨[cacheAttempt], ⟨0, 1, 0, 0, 0, 0, 0, 0, 0⟩, ⟨0, 0, 0, 0, 0, 0, 0, 0, 0⟩,
    ⟨0, 1, 0, 0, 0, 0, 0, 0, 0⟩⟩
  providerCalls := [cacheReceipt]
  children := []
  aggregation := ⟨[cacheCall], [], [cacheCall], cacheUsage, ProviderCallUsage.empty, cacheUsage⟩
  usageSlices := [cacheSlice]
  coverage := cacheSlice.coverage
  cost := cacheSlice.cost
  legacy := .canonical
  evidence := ⟨[zeros], [], []⟩
  revision := 1
  extensions := []
  bundleId := "rb_" ++ zeros
  bundleDigest := zeros

theorem cacheEvidence : RunEvidence.fromReceipts asciiHost [cacheReceipt] = .ok cacheBundle.evidence := by
  have digest : cacheReceipt.receiptSha256 asciiHost = .ok zeros :=
    canonicalSha256_of_short (by decide +kernel)
  have digests : [cacheReceipt].mapM (ProviderCallReceipt.receiptSha256 asciiHost) = .ok [zeros] := by
    simp [digest, bind, Except.bind, pure, Except.pure]
  rw [RunEvidence.fromReceipts, digests]
  decide +kernel

theorem cacheBundle_valid :
    validateProjection asciiHost { cacheBundle with bundleDigest := "" } = .ok () := by
  have evidence : checkEvidence asciiHost { cacheBundle with bundleDigest := "" } = .ok () :=
    bind_iff.mpr ⟨_, cacheEvidence, by simp [cacheBundle]⟩
  simp only [validateProjection, bind_iff]
  exact ⟨(), by decide +kernel, (), by decide +kernel, (), by decide +kernel, (), by decide +kernel,
    (), by decide +kernel, (), by decide +kernel, (), by decide +kernel, (), by decide +kernel,
    (), evidence, by decide +kernel⟩

theorem cacheBundle_made : MadeOf asciiHost cacheBundle
    (.dict [("revision", .int 1), ("extensions", .dict [])]) cacheBundle where
  revision := rfl
  few := by decide
  uniqueCalls := List.nodup_singleton _
  uniqueChildren := List.nodup_nil
  extensions := by decide +kernel
  bundleId := by decide +kernel
  givenId := rfl
  valid := cacheBundle_valid
  digest := canonicalSha256_of_short (by decide +kernel)
  givenDigest := rfl
  bytes := canonicalBytes_of_short (by decide +kernel)
  parts := rfl

theorem cacheFacts_reduce : reduce asciiHost rootArgs cacheFacts = .ok cacheBundle := by
  have made := make_iff.mpr cacheBundle_made
  have event : metricEventFromReceipt asciiHost cacheReceipt = .ok cacheAttempt := by
    decide +kernel
  have added : [cacheReceipt].foldlM (addModelAttempt asciiHost) [] =
      .ok [("me_" ++ zeros, cacheAttempt)] := by
    simp only [List.foldlM_cons, List.foldlM_nil, addModelAttempt, bind_iff, pure_iff]
    exact ⟨_, ⟨_, event, rfl⟩, rfl⟩
  simp only [reduce, project, bind_iff]
  exact ⟨[(cacheCall, cacheReceipt)], rfl, [], rfl, [], rfl, _, added,
    cacheBundle.descriptor, by decide +kernel, cacheBundle.aggregation, by decide +kernel,
    cacheBundle.usageSlices, by decide +kernel, cacheBundle.legacy, by decide +kernel,
    cacheBundle.evidence, cacheEvidence, cacheBundle.metrics, by decide +kernel,
    cacheBundle.coverage, by decide +kernel, cacheBundle.cost, by decide +kernel, made⟩

theorem cacheReceipt_constructed : cacheReceipt.Constructed asciiHost := by
  obtain ⟨identity, -, timing, ids, billing, pricing, -⟩ := rootReceipt_constructed
  refine ⟨identity, ⟨cacheUsage.toArgs, by decide +kernel⟩, timing, ids, billing, pricing, ?_⟩
  exact ⟨.dict [("provider", .str "openai"), ("model", .str "m"), ("status", .str "uncertain")],
    by decide +kernel⟩

theorem cacheFacts_given : Given asciiHost rootArgs cacheFacts where
  identity := ⟨rootArgs.identity.toDict, by decide +kernel⟩
  lifecycle := ⟨rootArgs.lifecycle.toDict, by decide +kernel⟩
  descriptor := nofun
  legacy := nofun
  receipts := List.forall_mem_singleton.mpr cacheReceipt_constructed
  writes := by
    refine List.forall_mem_singleton.mpr fun n known => ?_
    cases known
    exact Nat.zero_le _
  children := nofun
  events := nofun

/-- The counters without the cache-write total. -/
def cacheRecord : Value :=
  ProviderCallUsage.Args.toDict { cacheUsage.toArgs with inputCacheWriteTokens := .none }

/-- A record whose usage total is another one, which the constructor completes, is not refused. -/
theorem cacheFacts_replaced : ∃ b, reduce asciiHost rootArgs cacheFacts = .ok b ∧
    cacheRecord ≠ b.aggregation.allUsage.toDict ∧
    fromDict asciiHost (wire b { b.totals with allUsage := cacheRecord }) = .ok b := by
  have sound := sound_of_reduce cacheFacts_given cacheFacts_reduce
  have read : ProviderCallUsage.fromDict asciiHost cacheRecord = .ok cacheUsage := by decide +kernel
  refine ⟨cacheBundle, cacheFacts_reduce, nofun, fromDict_wire_of_reads sound ?_⟩
  exact { sound.reads with allUsage := read }

theorem cacheFacts_wire : fromDict asciiHost cacheBundle.toDict = .ok cacheBundle ∧
    ∀ t : Totals, t.slices.length = 1 → ∀ b', fromDict asciiHost (wire cacheBundle t) = .ok b' →
      b' = cacheBundle ∧ SameTotals t cacheBundle :=
  (wire_faithful cacheFacts_given cacheFacts_reduce).2

end RunBundle

end Unchain.Accounting
