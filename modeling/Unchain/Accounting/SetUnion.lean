import Unchain.Accounting.Digests
import Unchain.Accounting.Reducer

/-!
A bundle is a function of the sets of its facts.

`reduce_iff` says what a reduction does: it projects the unions of the receipts, the children and
the events. Order and repetition of the facts are lost in the unions, conflicting receipts have
none, and a provider call that reaches the reducer on several ways is in the union once.
-/

namespace Unchain.Accounting

open Lib Lib.Effect Lib.KeyedUnion Python
open RunBundle (descendantCalls directCalls sumUsage)

variable {host : BundleHost}

def DigestsApart (host : BundleHost) (receipts : List ProviderCallReceipt) : Prop :=
  ∀ r ∈ receipts, ∀ r' ∈ receipts, ∀ bytes bytes', canonicalBytes host r.toDict = .ok bytes →
    canonicalBytes host r'.toDict = .ok bytes' → host.sha256 bytes = host.sha256 bytes' →
    bytes = bytes'

/-! ### The three unions -/

variable {digest : String} {r : ProviderCallReceipt} {receipts : List ProviderCallReceipt}

theorem receipt_eq_of_digest (made : ∀ r ∈ receipts, r.Constructed host)
    (apart : DigestsApart host receipts) {r' : ProviderCallReceipt} (mem : r ∈ receipts)
    (mem' : r' ∈ receipts) (here : r.receiptSha256 host = .ok digest)
    (there : r'.receiptSha256 host = .ok digest) : r = r' := by
  obtain ⟨bytes, wrote, hashed⟩ := map_ok here
  obtain ⟨bytes', wrote', hashed'⟩ := map_ok there
  obtain rfl := apart r mem r' mem' bytes bytes' wrote wrote' (hashed.trans hashed'.symm)
  exact receipt_eq_of_bytes (frozen_of_constructed (made r mem))
    (frozen_of_constructed (made r' mem')) wrote wrote'

theorem receiptsAgree_truthful (made : ∀ r ∈ receipts, r.Constructed host)
    (apart : DigestsApart host receipts) :
    Truthful ProviderCallReceipt.providerCallId (receiptsAgree host) receipts := by
  intro r mem r' mem' _ agree
  simp only [receiptsAgree, bind_iff, raiseIf_ok] at agree
  obtain ⟨there, thereOk, here, hereOk, same⟩ := agree
  obtain rfl : there = here := by simpa using same
  exact receipt_eq_of_digest made apart mem mem' thereOk hereOk

theorem receiptsAgree_self (h : r.receiptSha256 host = .ok digest) :
    receiptsAgree host r r = .ok () := by
  simp [receiptsAgree, h, bind, Except.bind]

theorem childrenAgree_truthful (children : List RunChild) :
    Truthful RunChild.runId childrenAgree children := by
  intro c _ c' _ _ agree
  simpa [childrenAgree] using agree

theorem childrenAgree_self (c : RunChild) : childrenAgree c c = .ok () := by
  simp [childrenAgree]

theorem eventsAgree_truthful (message : String) (events : List RunMetricEvent) :
    Truthful RunMetricEvent.metricEventId (eventsAgree message) events := by
  intro e _ e' _ _ agree
  simpa [eventsAgree] using agree

theorem eventsAgree_self (message : String) (e : RunMetricEvent) :
    eventsAgree message e e = .ok () := by
  simp [eventsAgree]

theorem addModelAttempts_iff {m m' : List (String × RunMetricEvent)} :
    receipts.foldlM (addModelAttempt host) m = .ok m' ↔
      ∃ attempts, receipts.mapM (metricEventFromReceipt host) = .ok attempts ∧
        insertAll RunMetricEvent.metricEventId
          (eventsAgree "provider receipt conflicts with its model attempt metric event") m attempts =
          .ok m' := by
  induction receipts generalizing m with
  | nil => simp [pure, Except.pure, insertAll]
  | cons r rs ih =>
    simp only [List.foldlM_cons, List.mapM_cons, addModelAttempt, bind_iff, ih, pure_iff]
    constructor
    · rintro ⟨m₁, ⟨event, made, step⟩, attempts, others, rest⟩
      refine ⟨event :: attempts, ⟨event, made, attempts, others, rfl⟩, ?_⟩
      rw [insertAll, List.foldlM_cons, step]
      exact rest
    · rintro ⟨_, ⟨event, made, attempts, others, rfl⟩, rest⟩
      obtain ⟨m₁, step, rest⟩ := bind_ok rest
      exact ⟨m₁, ⟨event, made, step⟩, attempts, others, rest⟩

variable {args : ReduceArgs} {b : RunBundle}

theorem digests_of_project {children : List RunChild} {events : List RunMetricEvent}
    (h : project host args receipts children events = .ok b) :
    ∀ r ∈ receipts, ∃ digest, r.receiptSha256 host = .ok digest := by
  simp only [project, bind_iff] at h
  obtain ⟨_, -, _, -, _, -, _, -, evidence, evidenceOk, -⟩ := h
  obtain ⟨digests, read, -⟩ := bind_ok evidenceOk
  intro r mem
  obtain ⟨digest, -, here⟩ := ran_of_mapM read r mem
  exact ⟨digest, here⟩

variable {facts : Facts}

theorem reduce_iff (made : ∀ r ∈ facts.receipts, r.Constructed host)
    (apart : DigestsApart host facts.receipts) :
    reduce host args facts = .ok b ↔ ∃ receipts children attempts events,
      UnionOf ProviderCallReceipt.providerCallId facts.receipts receipts ∧
      UnionOf RunChild.runId facts.children children ∧
      receipts.mapM (metricEventFromReceipt host) = .ok attempts ∧
      UnionOf RunMetricEvent.metricEventId (facts.metricEvents ++ attempts) events ∧
      project host args receipts children events = .ok b := by
  have truthful := receiptsAgree_truthful made apart
  simp only [reduce, bind_iff, addModelAttempts_iff]
  constructor
  · rintro ⟨receiptById, receiptsOk, childById, childrenOk, eventById, eventsOk, allEvents,
      ⟨attempts, attemptsOk, written⟩, projected⟩
    refine ⟨_, _, attempts, _, (union_of_insertAll truthful receiptsOk).2,
      (union_of_insertAll (childrenAgree_truthful _) childrenOk).2, attemptsOk, ?_, projected⟩
    exact union_of_insertAll_after (eventsAgree_truthful _ _) (eventsAgree_truthful _ _) eventsOk
      written
  · rintro ⟨receipts, children, attempts, events, receiptUnion, childUnion, attemptsOk, eventUnion,
      projected⟩
    have digests := digests_of_project projected
    have self : ∀ r ∈ facts.receipts, receiptsAgree host r r = .ok () := by
      intro r mem
      obtain ⟨digest, here⟩ := digests r ((receiptUnion.same r).mpr mem)
      exact receiptsAgree_self here
    obtain ⟨receiptById, receiptsOk, -, receiptsEq⟩ := insertAll_of_union receiptUnion truthful self
    obtain ⟨childById, childrenOk, -, childrenEq⟩ :=
      insertAll_of_union childUnion (childrenAgree_truthful _) fun c _ => childrenAgree_self c
    obtain ⟨eventById, allEvents, eventsOk, written, eventsEq⟩ :=
      insertAll_after_of_union eventUnion
        (eventsAgree_truthful "one metric_event_id has conflicting immutable events" _)
        (eventsAgree_truthful "provider receipt conflicts with its model attempt metric event" _)
        (fun e _ => eventsAgree_self _ e) fun e _ => eventsAgree_self _ e
    refine ⟨receiptById, receiptsOk, childById, childrenOk, eventById, eventsOk, allEvents, ?_, ?_⟩
    · exact ⟨attempts, by rw [receiptsEq]; exact attemptsOk, written⟩
    · rw [receiptsEq, childrenEq, eventsEq]
      exact projected

/-! ### Order and repetition -/

/-- The same facts, in any order and number. -/
structure Facts.Same (facts facts' : Facts) : Prop where
  receipts : ∀ r, r ∈ facts.receipts ↔ r ∈ facts'.receipts
  children : ∀ c, c ∈ facts.children ↔ c ∈ facts'.children
  metricEvents : ∀ e, e ∈ facts.metricEvents ↔ e ∈ facts'.metricEvents

variable {facts' : Facts}

theorem Facts.Same.symm (same : facts.Same facts') : facts'.Same facts :=
  ⟨fun r => (same.receipts r).symm, fun c => (same.children c).symm,
    fun e => (same.metricEvents e).symm⟩

theorem reduce_of_same (same : facts.Same facts') (made : ∀ r ∈ facts.receipts, r.Constructed host)
    (apart : DigestsApart host facts.receipts) (h : reduce host args facts = .ok b) :
    reduce host args facts' = .ok b := by
  have made' : ∀ r ∈ facts'.receipts, r.Constructed host :=
    fun r mem => made r ((same.receipts r).mpr mem)
  have apart' : DigestsApart host facts'.receipts := fun r mem r' mem' =>
    apart r ((same.receipts r).mpr mem) r' ((same.receipts r').mpr mem')
  rw [reduce_iff made apart] at h
  rw [reduce_iff made' apart']
  obtain ⟨receipts, children, attempts, events, receiptUnion, childUnion, attemptsOk, eventUnion,
    projected⟩ := h
  refine ⟨receipts, children, attempts, events, receiptUnion.congr same.receipts,
    childUnion.congr same.children, attemptsOk, eventUnion.congr fun e => ?_, projected⟩
  rw [List.mem_append, List.mem_append, same.metricEvents e]

/-! ### No call is counted twice -/

/-- The receipts that reach the reducer: directly and in the bundles. -/
def treeReceipts (facts : Facts) (bundles : List RunBundle) : List ProviderCallReceipt :=
  facts.receipts ++ bundles.flatMap RunBundle.providerCalls

structure CountsOnce (host : BundleHost) (runId : String) (receipts : List ProviderCallReceipt)
    (b : RunBundle) : Prop where
  same : ∀ r, r ∈ b.providerCalls ↔ r ∈ receipts
  once : (RunBundle.callIds b.providerCalls).Nodup
  all : RunBundle.sumUsage host b.providerCalls = .ok b.aggregation.allUsage
  direct : RunBundle.sumUsage host (RunBundle.directCalls runId b.providerCalls) =
    .ok b.aggregation.directUsage
  descendant : RunBundle.sumUsage host (RunBundle.descendantCalls runId b.providerCalls) =
    .ok b.aggregation.descendantUsage
  allIds : b.aggregation.allCallIds.Perm (RunBundle.callIds b.providerCalls)
  parts : (b.aggregation.directCallIds ++ b.aggregation.descendantCallIds).Perm
    b.aggregation.allCallIds
  totals : ∀ counter ∈ ProviderCallUsage.counters, ∀ m n,
    counter b.aggregation.directUsage = some m → counter b.aggregation.descendantUsage = some n →
      counter b.aggregation.allUsage = some (m + n)

theorem perm_of_values {xs ys : List String} (h : (xs.map Value.str).Perm (ys.map Value.str)) :
    xs.Perm ys :=
  (List.map_perm_map_iff fun _ _ same => Value.str.inj same).mp h

theorem aggregate_ok {runId : String} {a : RunAggregation}
    (h : aggregate host runId receipts = .ok a) :
    sumUsage host (directCalls runId receipts) = .ok a.directUsage ∧
    sumUsage host (descendantCalls runId receipts) = .ok a.descendantUsage ∧
    sumUsage host receipts = .ok a.allUsage ∧
    a.directCallIds.Perm (RunBundle.callIds (directCalls runId receipts)) ∧
    a.descendantCallIds.Perm (RunBundle.callIds (descendantCalls runId receipts)) ∧
    a.allCallIds.Perm (RunBundle.callIds receipts) := by
  simp only [aggregate, RunAggregation.make, RunAggregation.readIds, bind_iff, raiseIf_ok,
    exists_const, pure_iff] at h
  obtain ⟨direct, directOk, descendant, descendantOk, all, allOk, -,
    _, ⟨directIds, directRead, _, -, rfl⟩, _, ⟨descendantIds, descendantRead, _, -, rfl⟩,
    _, ⟨allIds, allRead, _, -, rfl⟩, -, -, rfl⟩ := h
  refine ⟨directOk, descendantOk, allOk, ?_, ?_, ?_⟩
  · exact (perm_of_values (sortedTexts_ok (fun v s => canonicalText_given) directRead).1).symm
  · exact (perm_of_values (sortedTexts_ok (fun v s => canonicalText_given) descendantRead).1).symm
  · exact (perm_of_values (sortedTexts_ok (fun v s => canonicalText_given) allRead).1).symm

theorem calls_partition (runId : String) (receipts : List ProviderCallReceipt) :
    (directCalls runId receipts ++ descendantCalls runId receipts).Perm
      receipts := by
  have split := List.filter_append_perm
    (fun r : ProviderCallReceipt => decide (r.identity.ownerRunId = runId)) receipts
  simpa [directCalls, descendantCalls] using split

theorem reduce_countsOnce (made : ∀ r ∈ facts.receipts, r.Constructed host)
    (apart : DigestsApart host facts.receipts) (h : reduce host args facts = .ok b) :
    CountsOnce host args.identity.runId facts.receipts b := by
  obtain ⟨receipts, children, attempts, events, receiptUnion, -, -, -, projected⟩ :=
    (reduce_iff made apart).mp h
  have parts := project_ok projected
  have calls : b.providerCalls = receipts := by
    rw [parts.providerCalls, sortedBy_of_sorted receiptUnion.sorted]
  obtain ⟨direct, descendant, all, directIds, descendantIds, allIds⟩ := aggregate_ok parts.aggregation
  rw [← calls] at direct descendant all directIds descendantIds allIds
  refine ⟨fun r => ?_, ?_, all, direct, descendant, allIds, ?_, ?_⟩
  · rw [calls]
    exact receiptUnion.same r
  · rw [calls]
    exact receiptUnion.nodup
  · have split := (calls_partition args.identity.runId b.providerCalls).map
      ProviderCallReceipt.providerCallId
    rw [List.map_append] at split
    exact ((directIds.append descendantIds).trans split).trans allIds.symm
  · intro counter mem m n knownDirect knownDescendant
    have split := (calls_partition args.identity.runId b.providerCalls).map ProviderCallReceipt.usage
    rw [List.map_append] at split
    refine ProviderCallUsage.sum_parts split (fun u here => ?_) direct descendant all mem knownDirect
      knownDescendant
    obtain ⟨r, here', rfl⟩ := List.mem_map.mp here
    rw [calls] at here'
    exact (made r ((receiptUnion.same r).mp here')).usage

theorem reduce_conflict {args : ReduceArgs} {facts : Facts}
    (made : ∀ r ∈ facts.receipts, r.Constructed host) (apart : DigestsApart host facts.receipts)
    {r r' : ProviderCallReceipt} (mem : r ∈ facts.receipts) (mem' : r' ∈ facts.receipts)
    (same : r.providerCallId = r'.providerCallId) (differ : r ≠ r') (b : RunBundle) :
    reduce host args facts ≠ .ok b := by
  intro h
  obtain ⟨receipts, children, attempts, events, receiptUnion, -⟩ := (reduce_iff made apart).mp h
  exact differ (receiptUnion.noConflict r mem r' mem' same)

/-- The reducer is a set union: a reduction is the same for the same facts in any order and number,
receipts of one call that differ are refused, and a reduction with bundles counts every receipt of
the tree once. -/
theorem reducer_is_set_union {args : ReduceArgs} {facts : Facts} {bundles : List RunBundle}
    (made : ∀ r ∈ treeReceipts facts bundles, r.Constructed host)
    (apart : DigestsApart host (treeReceipts facts bundles)) : (∀ facts', facts.Same facts' → ∀ b,
      reduce host args facts = .ok b ↔ reduce host args facts' = .ok b) ∧
    (∀ r ∈ facts.receipts, ∀ r' ∈ facts.receipts, r.providerCallId = r'.providerCallId → r ≠ r' →
      ∀ b, reduce host args facts ≠ .ok b) ∧
    (∀ r ∈ treeReceipts facts bundles, ∀ r' ∈ treeReceipts facts bundles,
      r.providerCallId = r'.providerCallId → r ≠ r' →
      ∀ b, reduceBundles host args bundles facts ≠ .ok b) ∧
    ∀ b, reduceBundles host args bundles facts = .ok b →
      CountsOnce host args.identity.runId (treeReceipts facts bundles) b := by
  have within : ∀ r ∈ facts.receipts, r ∈ treeReceipts facts bundles :=
    fun r mem => List.mem_append_left _ mem
  have made₀ : ∀ r ∈ facts.receipts, r.Constructed host := fun r mem => made r (within r mem)
  have apart₀ : DigestsApart host facts.receipts :=
    fun r mem r' mem' => apart r (within r mem) r' (within r' mem')
  refine ⟨fun facts' same b => ⟨reduce_of_same same made₀ apart₀, ?_⟩, ?_, ?_, ?_⟩
  · refine reduce_of_same same.symm (fun r mem => made₀ r ((same.receipts r).mpr mem)) ?_
    exact fun r mem r' mem' => apart₀ r ((same.receipts r).mpr mem) r' ((same.receipts r').mpr mem')
  · intro r mem r' mem' ids differ
    exact reduce_conflict made₀ apart₀ mem mem' ids differ
  · intro r mem r' mem' ids differ b h
    obtain ⟨own, -, h⟩ := bind_ok h
    exact @reduce_conflict host _ (facts.withBundles bundles own) made apart r r' mem mem' ids differ
      b h
  · intro b h
    obtain ⟨own, -, h⟩ := bind_ok h
    have reduced : reduce host
        { args with
          descriptor := args.descriptor.or
            ((bundles.find? fun b => b.identity = args.identity).map RunBundle.descriptor) }
        (facts.withBundles bundles own) = .ok b := h
    exact reduce_countsOnce made apart reduced

/-- A receipt given twice is reduced as if it were given once. -/
theorem reducer_is_set_union_twice :
    {b | reduce asciiHost rootArgs ⟨[rootReceipt, rootReceipt], [], []⟩ = .ok b}
      = {b | reduce asciiHost rootArgs ⟨[rootReceipt], [], []⟩ = .ok b} := by
  have made : ∀ r ∈ treeReceipts ⟨[rootReceipt, rootReceipt], [], []⟩ [],
      r.Constructed asciiHost := by
    simp [treeReceipts, rootReceipt_constructed]
  have apart : DigestsApart asciiHost (treeReceipts ⟨[rootReceipt, rootReceipt], [], []⟩ []) := by
    intro r mem r' mem' bytes bytes' wrote wrote' _
    have here : r = rootReceipt := by simpa [treeReceipts] using mem
    have there : r' = rootReceipt := by simpa [treeReceipts] using mem'
    rw [here] at wrote
    rw [there] at wrote'
    exact Except.ok.inj (wrote.symm.trans wrote')
  have union := @reducer_is_set_union asciiHost rootArgs _ [] made apart
  exact Set.ext (union.1 ⟨[rootReceipt], [], []⟩ ⟨by simp, by simp, by simp⟩)

end Unchain.Accounting
