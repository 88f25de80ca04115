import Unchain.Accounting.Usage

/-!
The sum of token counters as an aggregation (`ProviderCallUsage.sum`).

The counters of a sum are added one by one, and a counter that is unknown in one item is unknown in
the sum. What the constructor asks of the counters is kept by adding two of them, so a sum is
refused only for a counter beyond the limit. Neither the order of the items nor a partition of them
makes a difference, as long as the parts have sums at all.
-/

namespace Unchain.Accounting.ProviderCallUsage

open Lib Lib.Effect Python

variable {values : List (Option Nat)} {u : ProviderCallUsage}

theorem sumKnown_flatten (parts : List (List (Option Nat))) :
    sumKnown (parts.map sumKnown) = sumKnown parts.flatten := by
  induction parts with
  | nil => rfl
  | cons part parts ih =>
    rw [List.map_cons, List.flatten_cons, sumKnown_cons, sumKnown_append, ih]

/-! ### Order and partition -/

section Source

variable {sources : List UsageSource}

theorem sumSource_legacy : sumSource sources values = .legacyPartial ↔ .legacyPartial ∈ sources := by
  unfold sumSource
  split
  · simp_all
  · split
    · split <;> simp_all
    · split <;> simp_all

theorem sumSource_unavailable (nonempty : sources ≠ []) :
    sumSource sources values = .unavailable ↔ ∀ s ∈ sources, s = .unavailable := by
  obtain ⟨first, mem⟩ := List.exists_mem_of_ne_nil sources nonempty
  constructor
  · intro h
    unfold sumSource at h
    split at h
    · cases h
    · split at h
      · split at h
        · simp_all
        · cases h
      · split at h <;> cases h
  · intro all
    have clean : UsageSource.legacyPartial ∉ sources := fun legacy => by cases all _ legacy
    have here : UsageSource.unavailable ∈ sources := all first mem ▸ mem
    have every : sources.all (· = .unavailable) = true := by simpa using all
    simp [sumSource, clean, here, every]

theorem sumSource_observed : sumSource sources values = .providerObserved ↔
    (∀ s ∈ sources, s = .providerObserved) ∧ ∀ v ∈ values, v.isSome := by
  constructor
  · intro h
    unfold sumSource at h
    split at h
    · cases h
    · split at h
      · split at h <;> cases h
      · split at h
        · rename_i passed
          simpa using passed
        · cases h
  · rintro ⟨all, known⟩
    have clean : UsageSource.legacyPartial ∉ sources := fun legacy => by cases all _ legacy
    have given : UsageSource.unavailable ∉ sources := fun missing => by cases all _ missing
    have every : sources.all (· = .providerObserved) = true := by simpa using all
    have counted : values.all (·.isSome) = true := by simpa using known
    simp [sumSource, clean, given, every, counted]

theorem source_eq {a b : UsageSource} (legacy : a = .legacyPartial ↔ b = .legacyPartial)
    (unavailable : a = .unavailable ↔ b = .unavailable)
    (observed : a = .providerObserved ↔ b = .providerObserved) : a = b := by
  cases a <;> cases b <;> simp_all

theorem sumSource_perm {sources' : List UsageSource} (perm : sources.Perm sources')
    (values : List (Option Nat)) : sumSource sources values = sumSource sources' values := by
  by_cases empty : sources = []
  · rw [empty] at perm ⊢
    rw [List.nil_perm.mp perm]
  · have empty' : sources' ≠ [] := by
      rintro rfl
      exact empty perm.eq_nil
    apply source_eq
    · rw [sumSource_legacy, sumSource_legacy, perm.mem_iff]
    · rw [sumSource_unavailable empty, sumSource_unavailable empty']
      simp only [perm.mem_iff]
    · rw [sumSource_observed, sumSource_observed]
      simp only [perm.mem_iff]

theorem sumSource_flatten {α : Type} {parts : List α} {own : α → List UsageSource}
    {counted : α → List (Option Nat)} (some_ : parts ≠ []) (nonempty : ∀ p ∈ parts, own p ≠ [])
    (known : (∀ v ∈ values, v.isSome) → ∀ p ∈ parts, ∀ v ∈ counted p, v.isSome) :
    sumSource (parts.map fun p => sumSource (own p) (counted p)) values =
      sumSource (parts.map own).flatten values := by
  have flat {P : UsageSource → Prop} :
      (∀ s ∈ (parts.map own).flatten, P s) ↔ ∀ p ∈ parts, ∀ s ∈ own p, P s := by
    simp only [List.mem_flatten, List.mem_map]
    constructor
    · intro all p mem s here
      exact all s ⟨own p, ⟨p, mem, rfl⟩, here⟩
    · rintro all s ⟨_, ⟨p, mem, rfl⟩, here⟩
      exact all p mem s here
  apply source_eq
  · simp [sumSource_legacy]
  · obtain ⟨p, mem⟩ := List.exists_mem_of_ne_nil parts some_
    obtain ⟨s, here⟩ := List.exists_mem_of_ne_nil _ (nonempty p mem)
    have whole : (parts.map own).flatten ≠ [] :=
      List.ne_nil_of_mem (List.mem_flatten.mpr ⟨_, List.mem_map.mpr ⟨p, mem, rfl⟩, here⟩)
    rw [sumSource_unavailable (by simpa using some_), sumSource_unavailable whole, flat,
      List.forall_mem_map]
    exact forall₂_congr fun p mem => sumSource_unavailable (nonempty p mem)
  · rw [sumSource_observed, sumSource_observed, flat, List.forall_mem_map]
    simp only [sumSource_observed]
    constructor
    · rintro ⟨all, counted⟩
      exact ⟨fun p mem => (all p mem).1, counted⟩
    · rintro ⟨all, counted⟩
      exact ⟨fun p mem => ⟨all p mem, known counted p mem⟩, counted⟩

end Source

theorem added_perm {xs ys : List ProviderCallUsage} (perm : xs.Perm ys) : added xs = added ys := by
  have counter (f : ProviderCallUsage → Option Nat) : sumKnown (xs.map f) = sumKnown (ys.map f) :=
    sumKnown_perm (perm.map f)
  simp only [added, counter, sumSource_perm (perm.map source)]

theorem fieldValues_eq (u : ProviderCallUsage) : u.fieldValues = counters.map fun f => f u := rfl

theorem added_ext {u v : ProviderCallUsage} (same : ∀ f ∈ counters, f u = f v)
    (source : u.source = v.source) : u = v := by
  simp only [counters, List.forall_mem_cons] at same
  obtain ⟨a, b, c, d, e, f, g, h, i, j, -⟩ := same
  exact ProviderCallUsage.ext a b c d e f g h i j source

theorem added_flatten {parts : List (List ProviderCallUsage)} (some_ : parts ≠ [])
    (nonempty : ∀ p ∈ parts, p ≠ []) : added (parts.map added) = added parts.flatten := by
  have counter : ∀ f ∈ counters, f (added (parts.map added)) = f (added parts.flatten) := by
    intro f mem
    rw [added_counter mem, added_counter mem, List.map_flatten, ← sumKnown_flatten, List.map_map,
      List.map_map]
    exact congrArg sumKnown (List.map_congr_left fun p _ => added_counter mem p)
  have values : (added (parts.map added)).fieldValues = (added parts.flatten).fieldValues :=
    List.map_congr_left counter
  apply added_ext counter
  have whole : (added (parts.map added)).source = sumSource ((parts.map added).map source)
      (added (parts.map added)).fieldValues := rfl
  have parted : (parts.map added).map source =
      parts.map fun p => sumSource (p.map source) (added p).fieldValues := by
    rw [List.map_map]
    rfl
  rw [whole, parted, values, sumSource_flatten some_ (by simpa using nonempty), ← List.map_flatten]
  · rfl
  · -- a counter that is known in the whole is known in every item
    intro known p mem v here
    rw [fieldValues_eq] at known here
    obtain ⟨f, listed, rfl⟩ := List.mem_map.mp here
    have total := known _ (List.mem_map.mpr ⟨f, listed, rfl⟩)
    rw [added_counter listed, sumKnown_isSome, List.forall_mem_map] at total ⊢
    exact fun u inside => total u (List.mem_flatten.mpr ⟨p, mem, inside⟩)

/-! ### Sums -/

variable {host : BundleHost} {items : List ProviderCallUsage}

theorem sum_iff (nonempty : items ≠ []) (made : ∀ x ∈ items, ∃ args, make host args = .ok x) :
    sum host items = .ok u ↔ u = added items ∧ (added items).Bounded := by
  constructor
  · intro h
    obtain ⟨rfl, bounded⟩ := sum_ok made h
    rw [if_neg nonempty] at bounded ⊢
    exact ⟨rfl, bounded⟩
  · rintro ⟨rfl, bounded⟩
    rw [sum, if_neg (by simpa using nonempty), make, readCounts_toArgs bounded]
    exact validate_iff.mpr (valid_of_made made)

theorem sum_of_added {items' : List ProviderCallUsage} (nonempty : items ≠ []) (nonempty' : items' ≠ [])
    (same : added items = added items') : sum host items = sum host items' := by
  rw [sum, sum, if_neg (by simpa using nonempty), if_neg (by simpa using nonempty'), same]

theorem sums_of_parts {parts : List (List ProviderCallUsage)} {sums : List ProviderCallUsage}
    (nonempty : ∀ p ∈ parts, p ≠ []) (made : ∀ p ∈ parts, ∀ x ∈ p, ∃ args, make host args = .ok x)
    (summed : parts.mapM (sum host) = .ok sums) : sums = parts.map added := by
  rw [mapM_iff] at summed
  induction summed with
  | nil => rfl
  | @cons p total parts sums first rest ih =>
    rw [((sum_iff (nonempty p (by simp)) (made p (by simp))).mp first).1,
      ih (fun q mem => nonempty q (by simp [mem])) fun q mem => made q (by simp [mem])]
    rfl

/-- A sum is refused only for a counter beyond the limit, and otherwise its constructor accepts it
again. The order of the items makes no difference, and a partition of them none when its parts have
sums. -/
theorem sum_aggregates (nonempty : items ≠ [])
    (made : ∀ x ∈ items, ∃ args, make host args = .ok x) :
    ((∃ u, sum host items = .ok u) ↔ (added items).Bounded) ∧
    (∀ u, sum host items = .ok u → u = added items ∧ u.Made host) ∧
    (∀ items', items'.Perm items → sum host items' = sum host items) ∧
    ∀ (parts : List (List ProviderCallUsage)) (sums : List ProviderCallUsage),
      parts.flatten.Perm items → (∀ p ∈ parts, p ≠ []) → parts.mapM (sum host) = .ok sums → sum host
    sums = sum host items := by
  refine ⟨?_, ?_, ?_, ?_⟩
  · simp only [sum_iff nonempty made, exists_eq_left]
  · intro u h
    obtain ⟨rfl, bounded⟩ := (sum_iff nonempty made).mp h
    refine ⟨rfl, ?_⟩
    rw [Made, make, readCounts_toArgs bounded]
    exact validate_iff.mpr (valid_of_made made)
  · intro items' perm
    exact sum_of_added (fun none => nonempty (none ▸ perm).nil_eq.symm) nonempty (added_perm perm)
  · intro parts sums perm whole summed
    have some_ : parts ≠ [] := by
      rintro rfl
      exact nonempty perm.nil_eq.symm
    have each : ∀ p ∈ parts, ∀ x ∈ p, ∃ args, make host args = .ok x := fun p mem x here =>
      made x (perm.mem_iff.mp (List.mem_flatten.mpr ⟨p, mem, here⟩))
    obtain rfl := sums_of_parts whole each summed
    apply sum_of_added (by simpa using some_) nonempty
    rw [added_flatten some_ whole, added_perm perm]

/-! ### A part without a sum -/

/-- Nothing but the greatest total there is. -/
def largest : ProviderCallUsage := { empty with totalTokens := some maxSafeInteger }

theorem largest_made : make asciiHost largest.toArgs = .ok largest := by decide +kernel

theorem empty_made : make asciiHost empty.toArgs = .ok empty := by decide +kernel

theorem largest_aggregates :
    ∃ u, sum asciiHost [largest, empty] = .ok u ∧ u.Made asciiHost := by
  have made : ∀ x ∈ [largest, empty], ∃ args, make asciiHost args = .ok x := by
    simp only [List.forall_mem_cons]
    exact ⟨⟨_, largest_made⟩, ⟨_, empty_made⟩, List.forall_mem_nil _⟩
  obtain ⟨summed, again, -⟩ := sum_aggregates (by simp) made
  obtain ⟨u, h⟩ := summed.mpr (by simp [Bounded, fieldValues, added, sumKnown, largest, empty])
  exact ⟨u, h, (again u h).2⟩

/-- Two of these with an unknown one have a sum, but the two of them have none. -/
theorem part_without_sum :
    (∀ x ∈ [largest, largest, empty], ∃ args, make asciiHost args = .ok x) ∧
    (∃ u, sum asciiHost [largest, largest, empty] = .ok u) ∧
    ¬ ∃ sums, [[largest, largest], [empty]].mapM (sum asciiHost) = .ok sums := by
  have made : ∀ x ∈ [largest, largest, empty], ∃ args, make asciiHost args = .ok x := by
    simp only [List.forall_mem_cons]
    exact ⟨⟨_, largest_made⟩, ⟨_, largest_made⟩, ⟨_, empty_made⟩, List.forall_mem_nil _⟩
  refine ⟨made, ⟨_, (sum_iff (by simp) made).mpr ⟨rfl, ?_⟩⟩, ?_⟩
  · simp [Bounded, fieldValues, added, sumKnown, largest, empty]
  · rintro ⟨sums, h⟩
    cases mapM_iff.mp h with | cons first _
    have pair : ∀ x ∈ [largest, largest], ∃ args, make asciiHost args = .ok x := fun x mem =>
      made x (by simp_all)
    have bounded := ((sum_iff (by simp) pair).mp first).2
    have beyond : maxSafeInteger + maxSafeInteger ≤ maxSafeInteger :=
      bounded _ (by simp [fieldValues, added, sumKnown, largest, empty])
    exact absurd beyond (by decide)

end Unchain.Accounting.ProviderCallUsage
