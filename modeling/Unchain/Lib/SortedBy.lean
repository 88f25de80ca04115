import Mathlib.Data.List.Sort

/-!
Lists sorted by a key, as `sorted(items, key=...)` gives them.

The order of such a list depends on the items alone when no two of them share a key.
-/

namespace Unchain.Lib

variable {α κ : Type} [LinearOrder κ] (key : α → κ)

/-- The items in order of their keys; items of one key keep their order. -/
def sortedBy (xs : List α) : List α := xs.insertionSort fun a b => key a ≤ key b

variable {key}

theorem sortedBy_perm (xs : List α) : (sortedBy key xs).Perm xs := List.perm_insertionSort _ xs

@[simp] theorem mem_sortedBy {x : α} {xs : List α} : x ∈ sortedBy key xs ↔ x ∈ xs :=
  (sortedBy_perm xs).mem_iff

@[simp] theorem length_sortedBy (xs : List α) : (sortedBy key xs).length = xs.length :=
  (sortedBy_perm xs).length_eq

theorem nodup_keys_sortedBy {ω : Type} {f : α → ω} {xs : List α} :
    ((sortedBy key xs).map f).Nodup ↔ (xs.map f).Nodup :=
  ((sortedBy_perm xs).map f).nodup_iff

theorem sorted_sortedBy (xs : List α) : (sortedBy key xs).Pairwise fun a b => key a ≤ key b := by
  have : Std.Total fun a b : α => key a ≤ key b := ⟨fun a b => le_total (key a) (key b)⟩
  have : IsTrans α fun a b => key a ≤ key b := ⟨fun _ _ _ => le_trans⟩
  exact List.pairwise_insertionSort _ xs

theorem sortedBy_of_sorted {xs : List α} (sorted : xs.Pairwise fun a b => key a ≤ key b) :
    sortedBy key xs = xs :=
  List.Pairwise.insertionSort_eq sorted

@[simp] theorem sortedBy_sortedBy (xs : List α) : sortedBy key (sortedBy key xs) = sortedBy key xs :=
  sortedBy_of_sorted (sorted_sortedBy xs)

theorem eq_of_sorted {xs ys : List α} (sortedXs : xs.Pairwise fun a b => key a ≤ key b)
    (sortedYs : ys.Pairwise fun a b => key a ≤ key b) (nodupXs : (xs.map key).Nodup)
    (nodupYs : (ys.map key).Nodup) (same : ∀ x, x ∈ xs ↔ x ∈ ys) : xs = ys := by
  have perm : xs.Perm ys :=
    (List.perm_ext_iff_of_nodup (List.Nodup.of_map key nodupXs) (List.Nodup.of_map key nodupYs)).mpr
      same
  refine perm.eq_of_pairwise ?_ sortedXs sortedYs
  intro a b memA memB ab ba
  exact List.inj_on_of_nodup_map nodupXs memA ((same b).mpr memB) (le_antisymm ab ba)

end Unchain.Lib
