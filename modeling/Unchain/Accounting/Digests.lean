import Unchain.Accounting.Receipt
import Unchain.Python.Told

/-!
Receipts are told apart by the bytes that their digests are made of.
-/

namespace Unchain.Accounting

open Lib Lib.Effect Python

section Told

variable {display : Display}

theorem natValue_told : Told display natValue := by
  intro m n same
  exact Int.ofNat.inj (Told.int same)

theorem optional_told {α : Type} {f : α → Value} (told : Told display f)
    (present : ∀ a, canonicalForm display (f a) ≠ .null) : Told display (optionalValue f) := by
  intro a b same
  cases a with
  | none =>
    cases b with
    | none => rfl
    | some y => exact absurd same.symm (present y)
  | some x =>
    cases b with
    | none => exact absurd same (present x)
    | some y => exact congrArg some (told same)

theorem optionalText_told : Told display (optionalValue Value.str) := optional_told Told.str nofun

theorem optionalNat_told : Told display (optionalValue natValue) := optional_told natValue_told nofun

theorem record_present (es : Dict) : canonicalForm display (.dict es) ≠ .null := by
  exact nofun

theorem identity_told : Told display ProviderCallIdentity.toDict := by
  intro a b same
  have names : ProviderCallIdentity.fields.Nodup := by decide
  have both := Alike.mk same names names
  have text (field : String) {x y : String} := @Alike.field display _ _ _ _ x y both Told.str field
  have number (field : String) {x y : Nat} :=
    @Alike.field display _ _ _ _ x y both natValue_told field
  exact ProviderCallIdentity.ext (text "execution_id" rfl rfl) (text "attempt_id" rfl rfl)
    (text "root_run_id" rfl rfl) (text "owner_run_id" rfl rfl)
    (both.field optionalText_told "parent_run_id" rfl rfl)
    (number "iteration" rfl rfl) (number "retry_ordinal" rfl rfl) (text "purpose" rfl rfl)
    (text "request_sha256" rfl rfl) (text "route" rfl rfl)

theorem timing_told : Told display ProviderCallTiming.toDict := by
  intro a b same
  have names : ["started_at", "completed_at"].Nodup := by decide
  have both := Alike.mk same names names
  exact ProviderCallTiming.ext
    (both.field optionalText_told "started_at" rfl rfl)
    (both.field optionalText_told "completed_at" rfl rfl)

theorem ids_told : Told display ProviderCallIds.toDict := by
  intro a b same
  have names : ["request_id_sha256", "response_id_sha256"].Nodup := by decide
  have both := Alike.mk same names names
  exact ProviderCallIds.ext
    (both.field optionalText_told "request_id_sha256" rfl rfl)
    (both.field optionalText_told "response_id_sha256" rfl rfl)

theorem billing_told : Told display ProviderBillingDimensions.toDict := by
  intro a b same
  have names : ["billing_surface", "batch", "inference_geo"].Nodup := by decide
  have both := Alike.mk same names names
  exact ProviderBillingDimensions.ext
    (both.field optionalText_told "billing_surface" rfl rfl)
    (both.field (optional_told Told.bool nofun) "batch" rfl rfl)
    (both.field optionalText_told "inference_geo" rfl rfl)

theorem usage_told : Told display ProviderCallUsage.toDict := by
  intro a b same
  have names : ["input", "output", "total_tokens", "source"].Nodup := by decide
  have both := Alike.mk same names names
  have inputNames : ProviderCallUsage.inputFields.Nodup := by decide
  have outputNames : ProviderCallUsage.outputFields.Nodup := by decide
  have input := both.inner "input" rfl rfl
  have output := both.inner "output" rfl rfl
  have inside (field : String) {x y : Option Nat} :=
    @Alike.field display _ _ _ _ x y ⟨input, inputNames, inputNames⟩ optionalNat_told field
  have outside (field : String) {x y : Option Nat} :=
    @Alike.field display _ _ _ _ x y ⟨output, outputNames, outputNames⟩ optionalNat_told field
  exact ProviderCallUsage.ext (inside "uncached_tokens" rfl rfl) (inside "cache_read_tokens" rfl rfl)
    (inside "cache_write_tokens" rfl rfl) (inside "cache_write_5m_tokens" rfl rfl)
    (inside "cache_write_1h_tokens" rfl rfl) (inside "total_tokens" rfl rfl)
    (outside "visible_tokens" rfl rfl) (outside "reasoning_tokens" rfl rfl)
    (outside "total_tokens" rfl rfl)
    (both.field optionalNat_told "total_tokens" rfl rfl)
    (both.field (Told.name UsageSource.named_name) "source" rfl rfl)

theorem rates_told : Told display fun rates : PricingRates => .dict rates.toDict := by
  intro a b same
  have names : PricingRates.fields.Nodup := by decide
  have both := Alike.mk same names names
  have rate (field : String) {x y : Option Nat} :=
    @Alike.field display _ _ _ _ x y both optionalNat_told field
  exact PricingRates.ext (rate "input_uncached_nano_usd_per_million" rfl rfl)
    (rate "input_cache_read_nano_usd_per_million" rfl rfl)
    (rate "input_cache_write_nano_usd_per_million" rfl rfl)
    (rate "input_cache_write_5m_nano_usd_per_million" rfl rfl)
    (rate "input_cache_write_1h_nano_usd_per_million" rfl rfl)
    (rate "output_nano_usd_per_million" rfl rfl)

theorem rule_told : Told display LongContextRule.toDict := by
  intro a b same
  have names : ["threshold_input_tokens", "input_multiplier_ppm", "output_multiplier_ppm"].Nodup := by
    decide
  have both := Alike.mk same names names
  exact LongContextRule.ext
    (both.field natValue_told "threshold_input_tokens" rfl rfl)
    (both.field natValue_told "input_multiplier_ppm" rfl rfl)
    (both.field natValue_told "output_multiplier_ppm" rfl rfl)

theorem snapshot_told : Told display PricingSnapshotRef.toDict := by
  intro a b same
  have names : ("snapshot_id" :: PricingSnapshotRef.fields.tail).Nodup := by decide
  have both := Alike.mk same names names
  have text (field : String) {x y : String} := @Alike.field display _ _ _ _ x y both Told.str field
  exact PricingSnapshotRef.ext (text "catalog_version" rfl rfl) (text "catalog_sha256" rfl rfl)
    (text "source_url" rfl rfl) (text "source_sha256" rfl rfl) (text "effective_from" rfl rfl)
    (both.field optionalText_told "effective_until" rfl rfl)
    (text "provider" rfl rfl) (text "billing_surface" rfl rfl) (text "model" rfl rfl)
    (text "service_tier" rfl rfl) (both.field Told.bool "batch" rfl rfl)
    (text "inference_geo" rfl rfl) (both.field rates_told "rates" rfl rfl)
    (both.field (optional_told rule_told fun _ => record_present _)
      "long_context_rule" rfl rfl)
    (text "snapshot_id" rfl rfl)

theorem pricing_told : Told display ProviderCallPricing.toDict := by
  intro a b same
  have names : ProviderCallPricing.fields.Nodup := by decide
  have both := Alike.mk same names names
  have snapshot : a.snapshot = b.snapshot :=
    both.field (optional_told snapshot_told fun _ => record_present _)
      "snapshot" rfl rfl
  have status (s t : String) (holds : Assoc.get "status" a.toDict.entries = some (.str s))
      (holds' : Assoc.get "status" b.toDict.entries = some (.str t)) : s = t :=
    both.field Told.str "status" holds holds'
  have number (field : String) {x y : Nat} :=
    @Alike.field display _ _ _ _ x y both natValue_told field
  cases a with
  | estimated sa amount input output =>
    cases b with
    | estimated sb amount' input' output' =>
      rw [Option.some.inj snapshot, number "amount_nano_usd" rfl rfl,
        number "input_multiplier_ppm" rfl rfl, number "output_multiplier_ppm" rfl rfl]
    | unavailable sb reason => exact absurd (status _ _ rfl rfl) (by decide)
  | unavailable sa reason =>
    cases b with
    | estimated sb amount input output => exact absurd (status _ _ rfl rfl) (by decide)
    | unavailable sb reason' =>
      have reasons : reason = reason' := both.field Told.str "reason" rfl rfl
      have snapshots : sa = sb := snapshot
      rw [reasons, snapshots]

end Told

/-! ### Extensions -/

/-- A frozen object: its keys in order at every depth, without fractions. -/
structure Frozen (extensions : Dict) : Prop where
  inOrder : ordered (.dict extensions) = .dict extensions
  exact : (Value.dict extensions).Exact

variable {host : BundleHost}

/-- What the strict check lets pass has no fractions. -/
theorem exact_of_fine {depth : Nat} {v : Value} (fine : Fine host true depth v) : v.Exact := by
  induction fine with
  | @leaf depth v check notList notDict =>
    have passed := (raiseIf_bind_ok (check "")).2
    cases v with
    | float x => cases passed
    | obj cls attrs => cases passed
    | list items => cases notList
    | dict es => cases notDict
    | _ => trivial
  | list _ _ ih => exact exactItems_iff.mpr ih
  | dict _ _ ih => exact exactEntries_iff.mpr ih

theorem freezeExtensions_ok {v : Value} {extensions : Dict}
    (h : freezeExtensions host v = .ok extensions) : Frozen extensions := by
  unfold freezeExtensions at h
  split at h
  · rename_i es _
    obtain ⟨-, h⟩ := raiseIf_bind_ok h
    obtain ⟨copied, copy, h⟩ := bind_ok h
    cases h
    obtain ⟨rfl, again⟩ := jsonCopy_again copy
    obtain ⟨_, valid, -⟩ := bind_ok again
    have fine := (validateJson_ok_iff.mp valid).2
    have inOrder := ordered_ordered (.dict es)
    exact ⟨inOrder, exact_of_fine fine⟩
  · cases h

theorem frozen_of_constructed {r : ProviderCallReceipt} (made : r.Constructed host) :
    Frozen r.extensions := by
  obtain ⟨arg, h⟩ := made.receipt
  simp only [ProviderCallReceipt.make, bind_iff, raiseIf_ok, exists_const, pure_iff] at h
  obtain ⟨_, -, _, -, _, -, _, -, -, _, -, -, extensions, frozen, _, -, _, -, same⟩ := h
  have own : extensions = r.extensions := congrArg ProviderCallReceipt.extensions same
  rw [← own]
  exact freezeExtensions_ok frozen

/-! ### Receipts -/

theorem optional_exact {α : Type} {f : α → Value} (exact : ∀ a, (f a).Exact) (a : Option α) :
    (optionalValue f a).Exact := by
  cases a with
  | none => trivial
  | some x => exact exact x

theorem optionalText_exact (s : Option String) : (optionalValue Value.str s).Exact :=
  optional_exact (f := Value.str) (fun _ => trivial) s

theorem optionalNat_exact (n : Option Nat) : (optionalValue natValue n).Exact :=
  optional_exact (f := natValue) (fun _ => trivial) n

theorem optionalBool_exact (b : Option Bool) : (optionalValue Value.bool b).Exact :=
  optional_exact (f := Value.bool) (fun _ => trivial) b

theorem usage_exact (u : ProviderCallUsage) : u.toDict.Exact := by
  simp [ProviderCallUsage.toDict, ProviderCallUsage.Args.toDict, ProviderCallUsage.toArgs,
    Value.Exact, ExactEntries, optionalNat_exact]

theorem snapshot_exact (s : PricingSnapshotRef) : s.toDict.Exact := by
  have rule : (optionalValue LongContextRule.toDict s.longContext).Exact := by
    refine optional_exact (fun rule => ?_) _
    simp [LongContextRule.toDict, Value.Exact, ExactEntries, natValue]
  simp [PricingSnapshotRef.toDict, PricingSnapshotRef.bodyDict, PricingRates.toDict, Value.Exact,
    ExactEntries, optionalNat_exact, optionalText_exact, rule]

theorem pricing_exact (p : ProviderCallPricing) : p.toDict.Exact := by
  have snapshot (s : Option PricingSnapshotRef) :
      (optionalValue PricingSnapshotRef.toDict s).Exact := optional_exact snapshot_exact s
  have shape : p.toDict.Exact ↔ (p.toArgs.get "status").Exact ∧ (p.toArgs.get "basis").Exact ∧
      (optionalValue PricingSnapshotRef.toDict p.snapshot).Exact ∧
      (p.toArgs.get "amount_nano_usd").Exact ∧ (p.toArgs.get "reason").Exact ∧
      (p.toArgs.get "input_multiplier_ppm").Exact ∧
      (p.toArgs.get "output_multiplier_ppm").Exact ∧ True := Iff.rfl
  cases p with
  | estimated s amount input output | unavailable s reason =>
    exact ⟨trivial, trivial, snapshot _, trivial, trivial, trivial, trivial, trivial⟩

theorem receipt_exact {r : ProviderCallReceipt} (frozen : Frozen r.extensions) : r.toDict.Exact := by
  have extensions := frozen.exact
  simp only [Value.Exact] at extensions
  simp [ProviderCallReceipt.toDict, ProviderCallIdentity.toDict, ProviderCallTiming.toDict,
    ProviderCallIds.toDict, ProviderBillingDimensions.toDict, Value.Exact, ExactEntries, natValue,
    optionalText_exact, optionalBool_exact, usage_exact, pricing_exact, extensions]

theorem receipt_eq_of_form {display : Display} {a b : ProviderCallReceipt}
    (frozenA : Frozen a.extensions) (frozenB : Frozen b.extensions)
    (same : canonicalForm display a.toDict = canonicalForm display b.toDict) : a = b := by
  have names : ProviderCallReceipt.fields.Nodup := by decide
  have both := Alike.mk same names names
  have providerNames : ["name", "model", "service_tier"].Nodup := by decide
  have provider := Alike.mk (both.inner "provider" rfl rfl) providerNames providerNames
  have extensions := both.inner "extensions" rfl rfl
  have inOrder := ordered_eq_of_canonicalForm frozenA.exact frozenB.exact extensions
  rw [frozenA.inOrder, frozenB.inOrder] at inOrder
  exact ProviderCallReceipt.ext (both.field identity_told "identity" rfl rfl)
    (provider.field Told.str "name" rfl rfl)
    (provider.field Told.str "model" rfl rfl)
    (both.field (Told.name ReceiptStatus.named_name) "status" rfl rfl)
    (both.field usage_told "usage" rfl rfl)
    (provider.field optionalText_told "service_tier" rfl rfl)
    (both.field timing_told "timing" rfl rfl)
    (both.field ids_told "provider_ids" rfl rfl)
    (both.field billing_told "billing_dimensions" rfl rfl)
    (both.field optionalText_told "raw_usage_sha256" rfl rfl)
    (both.field pricing_told "pricing" rfl rfl) (Value.dict.inj inOrder)
    (both.field Told.str "provider_call_id" rfl rfl)

theorem receipt_eq_of_bytes {a b : ProviderCallReceipt} (frozenA : Frozen a.extensions)
    (frozenB : Frozen b.extensions) {bytes : Utf8.Bytes}
    (wroteA : canonicalBytes host a.toDict = .ok bytes)
    (wroteB : canonicalBytes host b.toDict = .ok bytes) : a = b :=
  receipt_eq_of_form frozenA frozenB
    (sorted_eq_of_canonicalJson (receipt_exact frozenA).plain (receipt_exact frozenB).plain
      (canonicalBytes_ok wroteA) (canonicalBytes_ok wroteB))

end Unchain.Accounting
