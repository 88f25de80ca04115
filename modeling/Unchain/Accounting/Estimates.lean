import Mathlib.Algebra.Order.Floor.Semifield
import Mathlib.Data.Rat.Floor
import Unchain.Accounting.Totals

/-!
The price of a provider call (`ProviderCallPricing.estimate`), and the cost of a set of them.

Each token is billed in one class. What is estimated is the exact price of the classes, which are
added up before anything is rounded.
-/

namespace Unchain.Accounting

open Lib Lib.Effect Python

namespace ProviderCallPricing

variable (s : PricingSnapshotRef) (u : ProviderCallUsage)

def inputPairs : List (Option Nat × Option Nat) :=
  [(u.inputUncachedTokens, s.rates.inputUncached), (u.inputCacheReadTokens, s.rates.inputCacheRead)] ++
    if u.inputCacheWrite5mTokens.isSome && u.inputCacheWrite1hTokens.isSome then
      [(u.inputCacheWrite5mTokens, s.rates.inputCacheWrite5m),
        (u.inputCacheWrite1hTokens, s.rates.inputCacheWrite1h)]
    else [(u.inputCacheWriteTokens, s.rates.inputCacheWrite)]

def outputPair : Option Nat × Option Nat := (u.outputTotalTokens, s.rates.output)

def pairs : List (Option Nat × Option Nat) := inputPairs s u ++ [outputPair s u]

/-- `int(tokens or 0) * int(rate or 0)`. -/
def numerator (p : Option Nat × Option Nat) : Nat := p.1.getD 0 * p.2.getD 0

def multipliers (inputTotal : Nat) : Nat × Nat :=
  match s.longContext with
  | some rule =>
    if rule.thresholdInputTokens < inputTotal then
      (rule.inputMultiplierPpm, rule.outputMultiplierPpm)
    else (1000000, 1000000)
  | none => (1000000, 1000000)

def adjustedNumerator (inputTotal : Nat) : Nat :=
  ((inputPairs s u).map numerator).sum * (multipliers s inputTotal).1 +
    numerator (outputPair s u) * (multipliers s inputTotal).2

variable (host : BundleHost)

/-- The class method `unavailable`, with a snapshot. -/
def withoutPrice (reason : String) : Except PyError ProviderCallPricing :=
  make host (some s) (.dict [("reason", .str reason)])

def estimate : Except PyError ProviderCallPricing :=
  if (pairs s u).any fun p => p.1.isNone then withoutPrice s host "usage_incomplete_for_pricing"
  else if (pairs s u).any fun p => p.1.getD 0 ≠ 0 && p.2.isNone then
    withoutPrice s host "pricing_rate_unavailable"
  else
    match u.inputTotalTokens with
    | none => withoutPrice s host "input_total_unknown_for_pricing_modifier"
    | some inputTotal =>
      let amount := (adjustedNumerator s u inputTotal + 500000000000) / 1000000000000
      make host (some s)
        (estimated s amount (multipliers s inputTotal).1 (multipliers s inputTotal).2).toArgs

/-! ### What a price is -/

/-- Tokens that are billed alike: how many, their rate, and the multiplier of the rate. -/
structure BilledClass where
  tokens : Nat
  nanoUsdPerMillion : Nat
  multiplierPpm : Nat

def BilledClass.price (c : BilledClass) : ℚ :=
  c.tokens * c.nanoUsdPerMillion * c.multiplierPpm / 10 ^ 12

def classOf (multiplier : Nat) (p : Option Nat × Option Nat) : BilledClass :=
  ⟨p.1.getD 0, p.2.getD 0, multiplier⟩

def inputClasses (inputTotal : Nat) : List BilledClass :=
  (inputPairs s u).map (classOf (multipliers s inputTotal).1)

def outputClass (inputTotal : Nat) : BilledClass :=
  classOf (multipliers s inputTotal).2 (outputPair s u)

def exactPrice (inputTotal : Nat) : ℚ :=
  ((inputClasses s u inputTotal ++ [outputClass s u inputTotal]).map BilledClass.price).sum

def roundHalfUp (x : ℚ) : Nat := ⌊x + 1 / 2⌋₊

/-- A counter is unknown, or the rate of one that is not zero, or the input total. -/
def Missing : Prop :=
  (∃ p ∈ pairs s u, p.1 = none ∨ p.1 ≠ some 0 ∧ p.2 = none) ∨ u.inputTotalTokens = none

end ProviderCallPricing

/-! ### What a snapshot was checked for -/

variable {host : BundleHost}

theorem positiveCount_pos {field : String} {v : Value} {n : Nat}
    (h : positiveCount field v = .ok n) : 0 < n ∧ n ≤ maxSafeInteger := by
  simp only [positiveCount, bind_iff, raiseIf_ok, exists_const, pure_iff] at h
  obtain ⟨n, read, positive, rfl⟩ := h
  exact ⟨Nat.pos_of_ne_zero (of_decide_eq_false positive), (count_ok read).2⟩

theorem LongContextRule.make_pos {arg : Value} {rule : LongContextRule}
    (h : make arg = .ok (some rule)) :
    (0 < rule.inputMultiplierPpm ∧ rule.inputMultiplierPpm ≤ maxSafeInteger) ∧
      0 < rule.outputMultiplierPpm ∧ rule.outputMultiplierPpm ≤ maxSafeInteger := by
  simp only [make] at h
  split at h
  · cases h
  · simp only [bind_iff, raiseIf_ok, exists_const, pure_iff] at h
    obtain ⟨-, _, -, input, inputOk, output, outputOk, ⟨⟩⟩ := h
    exact ⟨positiveCount_pos inputOk, positiveCount_pos outputOk⟩

variable {s : PricingSnapshotRef}

theorem PricingSnapshotRef.constructed_rule (made : s.Constructed host) :
    (∃ arg, LongContextRule.make arg = .ok s.longContext) ∧
      ∃ digest, isSha256 digest = true ∧ s.snapshotId = "price_" ++ digest := by
  obtain ⟨arg, h⟩ := made
  simp only [make, bind_iff, raiseIf_ok, exists_const, pure_iff] at h
  obtain ⟨_, -, _, -, _, -, -, _, -, _, -, _, -, -, -, _, -, _, -, _, -, _, -, _, -, _, -, _, -,
    rule, ruleOk, digest, digestOk, _, -, rfl⟩ := h
  exact ⟨⟨arg, ruleOk⟩, digest, canonicalSha256_hex digestOk, rfl⟩

namespace ProviderCallPricing

theorem multipliers_pos (made : s.Constructed host) (inputTotal : Nat) :
    (0 < (multipliers s inputTotal).1 ∧ (multipliers s inputTotal).1 ≤ maxSafeInteger) ∧
      0 < (multipliers s inputTotal).2 ∧ (multipliers s inputTotal).2 ≤ maxSafeInteger := by
  obtain ⟨⟨arg, h⟩, -⟩ := PricingSnapshotRef.constructed_rule made
  unfold multipliers
  split
  · next rule here =>
      rw [here] at h
      split
      · exact LongContextRule.make_pos h
      · decide
  · decide

/-! ### The estimate -/

theorem withoutPrice_eq {reason : String} (nonempty : reason ≠ "") (short : reason.length ≤ 512)
    (ascii : ∀ c ∈ reason.toList, 32 ≤ c.toNat ∧ c.toNat < 128) :
    withoutPrice s host reason = .ok (unavailable (some s) reason) := by
  have status : enumField host PricingStatus.named "pricing status" (.str "unavailable") =
      .ok .unavailable := enumField_name PricingStatus.named_name _ .unavailable
  have text : optionalText host 512 "pricing reason" (.str reason) = .ok (some reason) :=
    congrArg (Except.map some) (canonicalText_ascii nonempty short ascii)
  simp only [withoutPrice, make, bind_iff]
  exact ⟨.unavailable, status, none, rfl, none, rfl, none, rfl, some reason, text, rfl⟩

theorem optionalCount_nat {field : String} {n : Nat} {m : Option Nat} :
    optionalCount field (natValue n) = .ok m ↔ m = some n ∧ n ≤ maxSafeInteger := by
  constructor
  · intro h
    have given : natValue n = optionalValue natValue m := optionalCount_ok h
    cases m with
    | none => cases given
    | some m =>
      obtain rfl := natValue_inj given
      exact ⟨rfl, ProviderCallUsage.optionalCount_le h n rfl⟩
  · rintro ⟨rfl, small⟩
    exact congrArg (Except.map some) (count_nat small)

variable {amount input output : Nat}

theorem make_estimated (inputFits : 0 < input ∧ input ≤ maxSafeInteger)
    (outputFits : 0 < output ∧ output ≤ maxSafeInteger) (small : amount ≤ maxSafeInteger) :
    make host (some s) (estimated s amount input output).toArgs =
      .ok (estimated s amount input output) := by
  have status : enumField host PricingStatus.named "pricing status" (.str "estimated") =
      .ok .estimated := enumField_name PricingStatus.named_name _ .estimated
  simp only [make, bind_iff]
  refine ⟨.estimated, status, some amount, optionalCount_nat.mpr ⟨rfl, small⟩,
    some input, optionalCount_nat.mpr ⟨rfl, inputFits.2⟩,
    some output, optionalCount_nat.mpr ⟨rfl, outputFits.2⟩, none, rfl, ?_⟩
  obtain ⟨input, rfl⟩ := Nat.exists_eq_succ_of_ne_zero inputFits.1.ne'
  obtain ⟨output, rfl⟩ := Nat.exists_eq_succ_of_ne_zero outputFits.1.ne'
  rfl

theorem make_beyond (great : maxSafeInteger < amount) :
    ∃ e, make host (some s) (estimated s amount input output).toArgs = .error e := by
  cases outcome : make host (some s) (estimated s amount input output).toArgs with
  | error e => exact ⟨e, rfl⟩
  | ok p =>
    simp only [make, bind_iff] at outcome
    obtain ⟨_, -, _, read, -⟩ := outcome
    have small := (optionalCount_nat.mp read).2
    omega

theorem price_sum (classes : List BilledClass) : (classes.map BilledClass.price).sum =
    ((classes.map fun c => c.tokens * c.nanoUsdPerMillion * c.multiplierPpm).sum : Nat) / 10 ^ 12 := by
  induction classes with
  | nil => simp
  | cons c classes ih =>
    rw [List.map_cons, List.sum_cons, ih, List.map_cons, List.sum_cons, BilledClass.price]
    push_cast
    ring

variable {u : ProviderCallUsage} {inputTotal : Nat}

theorem exactPrice_eq :
    exactPrice s u inputTotal = (adjustedNumerator s u inputTotal : ℚ) / 10 ^ 12 := by
  rw [exactPrice, price_sum, List.map_append, List.sum_append, inputClasses, List.map_map]
  have input : ((inputPairs s u).map ((fun c : BilledClass =>
      c.tokens * c.nanoUsdPerMillion * c.multiplierPpm) ∘ classOf (multipliers s inputTotal).1)).sum =
      ((inputPairs s u).map numerator).sum * (multipliers s inputTotal).1 := by
    rw [← List.sum_map_mul_right]
    rfl
  rw [input]
  rfl

/-- The rounding of the source is the one half up of the exact price. -/
theorem roundHalfUp_exactPrice : roundHalfUp (exactPrice s u inputTotal) =
    (adjustedNumerator s u inputTotal + 500000000000) / 1000000000000 := by
  have shifted : exactPrice s u inputTotal + 1 / 2 =
      ((adjustedNumerator s u inputTotal + 500000000000 : Nat) : ℚ) / (1000000000000 : Nat) := by
    rw [exactPrice_eq]
    push_cast
    ring
  rw [roundHalfUp, shifted, Nat.floor_div_eq_div]

theorem estimate_cases (s : PricingSnapshotRef) (u : ProviderCallUsage) (host : BundleHost) :
    (Missing s u ∧ ∃ reason, estimate s u host = .ok (unavailable (some s) reason)) ∨
    (¬ Missing s u ∧ ∃ t, u.inputTotalTokens = some t ∧ estimate s u host =
      make host (some s) (estimated s (roundHalfUp (exactPrice s u t)) (multipliers s t).1
        (multipliers s t).2).toArgs) := by
  unfold estimate
  split
  · next unknown =>
      obtain ⟨p, mem, absent⟩ := List.any_eq_true.mp unknown
      exact .inl ⟨.inl ⟨p, mem, .inl (Option.isNone_iff_eq_none.mp absent)⟩, _,
        withoutPrice_eq (by decide) (by decide) (by decide)⟩
  next known =>
  split
  · next unpriced =>
      obtain ⟨p, mem, needed⟩ := List.any_eq_true.mp unpriced
      simp only [Bool.and_eq_true, decide_eq_true_eq, Option.isNone_iff_eq_none] at needed
      refine .inl ⟨.inl ⟨p, mem, .inr ⟨?_, needed.2⟩⟩, _,
        withoutPrice_eq (by decide) (by decide) (by decide)⟩
      intro zero
      simp [zero] at needed
  next priced =>
  split
  · next total => exact .inl ⟨.inr total, _, withoutPrice_eq (by decide) (by decide) (by decide)⟩
  · next t total =>
      refine .inr ⟨?_, t, total, by rw [roundHalfUp_exactPrice]⟩
      rintro (⟨p, mem, absent | ⟨nonzero, absent⟩⟩ | unknown)
      · exact known (List.any_eq_true.mpr ⟨p, mem, by simp [absent]⟩)
      · apply priced
        refine List.any_eq_true.mpr ⟨p, mem, ?_⟩
        have given : p.1.isNone ≠ true := fun none => known (List.any_eq_true.mpr ⟨p, mem, none⟩)
        obtain ⟨n, there⟩ := Option.ne_none_iff_exists'.mp (by simpa using given)
        simp_all
      · rw [total] at unknown
        cases unknown

/-- The classes of the input make up its total. -/
theorem inputClasses_tokens (valid : u.Valid) (known : ∀ p ∈ inputPairs s u, p.1.isSome)
    (total : u.inputTotalTokens = some inputTotal) :
    ((inputClasses s u inputTotal).map BilledClass.tokens).sum = inputTotal := by
  have whole := (valid.input inputTotal total).2
  simp only [List.forall_mem_cons, ProviderCallUsage.knownSum_cons] at whole
  simp only [inputPairs, List.cons_append, List.nil_append, List.forall_mem_cons] at known
  obtain ⟨uncached, read, writes⟩ := known
  have tokens : ((inputClasses s u inputTotal).map BilledClass.tokens).sum =
      u.inputUncachedTokens.getD 0 + (u.inputCacheReadTokens.getD 0 +
        u.inputCacheWriteTokens.getD 0) ∧ u.inputCacheWriteTokens.isSome := by
    simp only [inputClasses, List.map_map, inputPairs]
    split at writes
    · next parts =>
        obtain ⟨a, five⟩ := Option.isSome_iff_exists.mp (Bool.and_eq_true_iff.mp parts).1
        obtain ⟨b, one⟩ := Option.isSome_iff_exists.mp (Bool.and_eq_true_iff.mp parts).2
        rw [if_pos parts, valid.cacheWrite a b five one]
        simp [five, one, classOf]
    · next whole =>
        rw [if_neg whole]
        simp only [List.forall_mem_cons] at writes
        simp [classOf, writes.1]
  rw [tokens.1, ← whole ⟨uncached, read, tokens.2, nofun⟩]
  simp [ProviderCallUsage.knownSum]

end ProviderCallPricing

/-! ### The cost of a set of receipts -/

namespace RunCost

variable {receipts : List ProviderCallReceipt}

/-- The amounts of all receipts; one without an estimate counts nothing. -/
def totalAmount (receipts : List ProviderCallReceipt) : Nat :=
  (receipts.map fun r => r.pricing.amountNanoUsd).sum

theorem totalAmount_estimated (receipts : List ProviderCallReceipt) :
    totalAmount (receipts.filter fun r => r.pricing.isEstimated) = totalAmount receipts := by
  unfold totalAmount
  induction receipts with
  | nil => rfl
  | cons r receipts ih =>
    rw [List.filter_cons, List.map_cons, List.sum_cons, ← ih]
    cases pricing : r.pricing with
    | estimated => simp [ProviderCallPricing.isEstimated, pricing]
    | unavailable =>
      simp [ProviderCallPricing.isEstimated, ProviderCallPricing.amountNanoUsd]

section

variable (made : ∀ r ∈ receipts, r.Constructed host)

include made

theorem snapshotIds_pass : sortedTexts (canonicalText host 256 "pricing snapshot id")
      ((sortedBy id (snapshotIds receipts)).map Value.str) =
        .ok (sortedBy id (snapshotIds receipts)) := by
  have passes : ∀ x ∈ sortedBy id (snapshotIds receipts),
      canonicalText host 256 "pricing snapshot id" (.str x) = .ok x := by
    intro x mem
    rw [mem_sortedBy, snapshotIds, List.mem_dedup] at mem
    obtain ⟨r, here, given⟩ := List.mem_filterMap.mp mem
    obtain ⟨s, priced, rfl⟩ := Option.map_eq_some_iff.mp given
    obtain ⟨-, digest, hex, named⟩ :=
      PricingSnapshotRef.constructed_rule ((made r here).pricing.1 s priced)
    rw [named]
    exact canonicalText_digest hex (by decide) (by decide)
  rw [sortedTexts, mapM_map_ok passes]
  simp only [bind, Except.bind, sortedBy_sortedBy]
  rfl

/-- The records of the source, by the amount they are made with. -/
theorem make_priced {status : CostStatus} {basis currency : Value} {amount : Option Nat}
    (priced : checkPriced basis currency amount status = .ok ()) {c : RunCost} :
    make host ((sortedBy id (snapshotIds receipts)).map Value.str)
      (.dict [("status", .str status.name), ("basis", basis),
        ("amount_nano_usd", optionalValue natValue amount), ("currency", currency)]) = .ok c ↔
      (∀ n, amount = some n → n ≤ maxSafeInteger) ∧
        c = ⟨status, amount, sortedBy id (snapshotIds receipts)⟩ := by
  have unique : checkUnique "pricing snapshot ids must be unique"
      (sortedBy id (snapshotIds receipts)) = .ok () := by
    rw [checkUnique, raiseIf_ok, snapshotIds]
    simpa using (sortedBy_perm _).nodup_iff.mpr (List.nodup_dedup _)
  simp only [make, bind_iff, pure_iff]
  constructor
  · rintro ⟨status', statusOk, amount', amountOk, ids, idsOk, _, -, _, -, rfl⟩
    cases (enumField_name CostStatus.named_name _ status).symm.trans statusOk
    cases (snapshotIds_pass made).symm.trans idsOk
    cases amount with
    | none =>
      cases amountOk
      exact ⟨nofun, rfl⟩
    | some n =>
      obtain ⟨rfl, small⟩ := ProviderCallPricing.optionalCount_nat.mp amountOk
      exact ⟨fun _ same => Option.some.inj same ▸ small, rfl⟩
  · rintro ⟨small, rfl⟩
    exact ⟨status, enumField_name CostStatus.named_name _ _, amount,
      ProviderCallUsage.optionalCount_value small, _, snapshotIds_pass made, (), unique, (), priced,
      rfl⟩

theorem fromReceipts_exact :
    ((∃ c, fromReceipts host receipts = .ok c) ↔ totalAmount receipts ≤ maxSafeInteger) ∧
    ∀ c, fromReceipts host receipts = .ok c → c.amountNanoUsd =
      if receipts.any fun r => r.pricing.isEstimated then some (totalAmount receipts) else none := by
  rw [← totalAmount_estimated]
  simp only [fromReceipts]
  cases anyone : receipts.any fun r => r.pricing.isEstimated with
  | false =>
    have none_ : (receipts.filter fun r => r.pricing.isEstimated) = [] := by simpa using anyone
    have priced : checkPriced .none .none none .unavailable = .ok () := rfl
    have outcome (c : RunCost) := make_priced made priced (c := c)
    rw [none_]
    constructor
    · exact ⟨fun _ => Nat.zero_le _, fun _ => ⟨_, (outcome _).mpr ⟨nofun, rfl⟩⟩⟩
    · intro c h
      rw [((outcome c).mp h).2]
      rfl
  | true =>
    have some_ : (receipts.filter fun r => r.pricing.isEstimated).isEmpty = false := by
      simpa using anyone
    rw [some_]
    have named : ∃ status : CostStatus, (∀ n, checkPriced (.str "list_price_estimate")
        (.str "USD") (some n) status = .ok ()) ∧ status.name =
          if (receipts.filter fun r => r.pricing.isEstimated).length = receipts.length then
            "estimated" else "partial" := by
      split
      · exact ⟨.estimated, fun _ => rfl, rfl⟩
      · exact ⟨.partialCost, fun _ => rfl, rfl⟩
    obtain ⟨status, priced, name⟩ := named
    rw [← name]
    have outcome (c : RunCost) := make_priced made (priced
      (totalAmount (receipts.filter fun r => r.pricing.isEstimated))) (c := c)
    constructor
    · constructor
      · rintro ⟨c, h⟩
        exact ((outcome c).mp h).1 _ rfl
      · intro small
        exact ⟨_, (outcome _).mpr ⟨fun _ same => Option.some.inj same ▸ small, rfl⟩⟩
    · intro c h
      rw [((outcome c).mp h).2]
      rfl

end

end RunCost

namespace ProviderCallPricing

/-- The estimate of valid counters is the exact price of their classes, rounded half up; it is
unavailable for want of a counter, a rate or the total, and refused beyond the limit. A cost is the
sum of the amounts of its receipts. -/
theorem estimate_exact (snapshot : s.Constructed host)
    (usage : ∃ args, ProviderCallUsage.make host args = .ok u) :
    ((∃ reason, estimate s u host = .ok (unavailable (some s) reason)) ↔ Missing s u) ∧
    ((∃ e, estimate s u host = .error e) ↔ ¬ Missing s u ∧
      ∃ t, u.inputTotalTokens = some t ∧ maxSafeInteger < roundHalfUp (exactPrice s u t)) ∧
    (∀ t, ¬ Missing s u → u.inputTotalTokens = some t →
      (roundHalfUp (exactPrice s u t) ≤ maxSafeInteger → estimate s u host =
        .ok (estimated s (roundHalfUp (exactPrice s u t)) (multipliers s t).1
          (multipliers s t).2)) ∧
      ((inputClasses s u t).map BilledClass.tokens).sum = t ∧
      u.outputTotalTokens = some (outputClass s u t).tokens) ∧
    ∀ receipts : List ProviderCallReceipt, (∀ r ∈ receipts, r.Constructed host) →
      ((∃ c, RunCost.fromReceipts host receipts = .ok c) ↔
        RunCost.totalAmount receipts ≤ maxSafeInteger) ∧
      ∀ c, RunCost.fromReceipts host receipts = .ok c → c.amountNanoUsd =
        if receipts.any fun r => r.pricing.isEstimated then some (RunCost.totalAmount receipts)
        else none := by
  obtain ⟨args, made⟩ := usage
  have valid := ProviderCallUsage.validate_iff.mp (ProviderCallUsage.make_args made).1
  rw [← and_assoc, ← and_assoc]
  refine ⟨?_, fun _ made => RunCost.fromReceipts_exact made⟩
  rw [and_assoc]
  rcases estimate_cases s u host with
    ⟨missing, reason, outcome⟩ | ⟨complete, t, total, outcome⟩
  · refine ⟨⟨fun _ => missing, fun _ => ⟨reason, outcome⟩⟩, ?_, fun _ complete =>
      absurd missing complete⟩
    simp [outcome, missing]
  · obtain ⟨inputFits, outputFits⟩ := multipliers_pos snapshot t
    have known : ∀ p ∈ pairs s u, p.1.isSome := by
      intro p mem
      by_contra absent
      exact complete (.inl ⟨p, mem, .inl (by simpa using absent)⟩)
    have partition : ((inputClasses s u t).map BilledClass.tokens).sum = t ∧
        u.outputTotalTokens = some (outputClass s u t).tokens := by
      constructor
      · exact inputClasses_tokens valid (fun p mem => known p (List.mem_append_left _ mem)) total
      · have output := known (outputPair s u) (by simp [pairs])
        obtain ⟨n, there⟩ := Option.isSome_iff_exists.mp output
        have there : u.outputTotalTokens = some n := there
        simp [outputClass, outputPair, classOf, there]
    by_cases small : roundHalfUp (exactPrice s u t) ≤ maxSafeInteger
    · have priced := outcome.trans (make_estimated inputFits outputFits small)
      refine ⟨by simp [priced, complete], by simp [priced, total, small], ?_⟩
      rintro _ - given
      obtain rfl := Option.some.inj (total.symm.trans given)
      exact ⟨fun _ => priced, partition⟩
    · obtain ⟨e, beyond⟩ := make_beyond (Nat.not_le.mp small)
      have refused := outcome.trans beyond
      refine ⟨by simp [refused, complete], by simpa [refused, total, complete] using small, ?_⟩
      rintro _ - given
      obtain rfl := Option.some.inj (total.symm.trans given)
      exact ⟨fun fits => absurd fits small, partition⟩

/-! ### A price past the threshold -/

/-- Half a nano-USD for an input token, four times that past a hundred of them. -/
def sampleSnapshot : PricingSnapshotRef where
  catalogVersion := "1"
  catalogSha256 := zeros
  sourceUrl := "https://prices"
  sourceSha256 := zeros
  effectiveFrom := "2025-01-01T00:00:00Z"
  effectiveUntil := none
  provider := "openai"
  billingSurface := "api"
  model := "m"
  serviceTier := "default"
  batch := false
  inferenceGeo := "global"
  rates := ⟨some 500000, none, none, none, none, some 1000000⟩
  longContext := some ⟨100, 4000000, 1000000⟩
  snapshotId := "price_" ++ zeros

/-- A hundred and one tokens read, one written. -/
def sampleUsage : ProviderCallUsage :=
  ⟨some 101, some 0, some 0, none, none, some 101, some 1, some 0, some 1, some 102,
    .providerObserved⟩

theorem sampleSnapshot_constructed : sampleSnapshot.Constructed asciiHost := by
  refine ⟨sampleSnapshot.toArgs, ?_⟩
  simp only [PricingSnapshotRef.make, bind_iff, raiseIf_ok, exists_const, pure_iff]
  have digest : canonicalSha256 asciiHost (.dict sampleSnapshot.bodyDict) = .ok zeros :=
    canonicalSha256_of_short (by decide +kernel)
  exact ⟨_, rfl, _, rfl, _, rfl, by decide +kernel, _, rfl, _, by decide +kernel, none, rfl, rfl,
    by decide +kernel, _, rfl, _, rfl, _, rfl, _, rfl, _, rfl, _, rfl, _, rfl, _, rfl, _, digest, (),
    by decide +kernel, rfl⟩

theorem sample_estimate : estimate sampleSnapshot sampleUsage asciiHost =
    .ok (estimated sampleSnapshot 203 4000000 1000000) := by
  have complete : ¬ Missing sampleSnapshot sampleUsage := by
    simp [Missing, pairs, inputPairs, outputPair, sampleSnapshot, sampleUsage]
  have made : ProviderCallUsage.make asciiHost sampleUsage.toArgs = .ok sampleUsage := by
    decide +kernel
  obtain ⟨-, -, priced, -⟩ := estimate_exact sampleSnapshot_constructed ⟨_, made⟩
  have rounded : roundHalfUp (exactPrice sampleSnapshot sampleUsage 101) = 203 := by
    rw [roundHalfUp_exactPrice]
    decide
  have outcome := (priced 101 complete rfl).1
  rw [rounded] at outcome
  exact outcome (by decide)

end ProviderCallPricing

end Unchain.Accounting
