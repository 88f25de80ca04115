import Mathlib.Data.List.Sort
import Mathlib.Data.String.Basic
import Unchain.Lib.Assoc

/-!
Association lists with string keys in the order of their keys.

The sort is stable, so a lookup finds in the sorted list what it finds in the list.
-/

namespace Unchain.Lib.Assoc

variable {ν ω : Type}

variable (m : List (String × ν))

/-- The entries in order of their keys. -/
def byKey : List (String × ν) :=
  m.insertionSort fun a b => a.1 ≤ b.1

theorem byKey_perm : (byKey m).Perm m :=
  List.perm_insertionSort _ m

@[simp] theorem mem_byKey {e : String × ν} {m : List (String × ν)} : e ∈ byKey m ↔ e ∈ m :=
  (byKey_perm m).mem_iff

theorem keys_byKey_perm : (keys (byKey m)).Perm (keys m) :=
  (byKey_perm m).map Prod.fst

theorem get_orderedInsert (k : String) (e : String × ν) (m : List (String × ν)) :
    get k (m.orderedInsert (fun a b => a.1 ≤ b.1) e) = get k (e :: m) := by
  induction m with
  | nil => rfl
  | cons first m ih =>
    rw [List.orderedInsert_cons]
    split
    · rfl
    · rename_i after
      -- `e` moves behind an entry of a smaller, hence different key
      have other : first.1 ≠ e.1 := by
        intro same
        exact after (le_of_eq same.symm)
      obtain ⟨j, x⟩ := first
      obtain ⟨i, y⟩ := e
      simp only [get_cons, ih]
      by_cases hj : j = k
      · have hi : i ≠ k := fun same => other (hj.trans same.symm)
        rw [if_pos hj, if_neg hi, if_pos hj]
      · rw [if_neg hj, if_neg hj]

@[simp] theorem get_byKey (k : String) (m : List (String × ν)) : get k (byKey m) = get k m := by
  induction m with
  | nil => rfl
  | cons e m ih =>
    have step : byKey (e :: m) = (byKey m).orderedInsert (fun a b => a.1 ≤ b.1) e := rfl
    obtain ⟨i, y⟩ := e
    rw [step, get_orderedInsert, get_cons, get_cons, ih]

theorem sorted_byKey : (byKey m).Pairwise fun a b => a.1 ≤ b.1 := by
  have : Std.Total fun a b : String × ν => a.1 ≤ b.1 := ⟨fun a b => le_total a.1 b.1⟩
  have : IsTrans (String × ν) fun a b => a.1 ≤ b.1 := ⟨fun _ _ _ => le_trans⟩
  exact List.pairwise_insertionSort _ m

theorem byKey_of_sorted {m : List (String × ν)} (sorted : m.Pairwise fun a b => a.1 ≤ b.1) :
    byKey m = m :=
  List.Pairwise.insertionSort_eq sorted

/-- A change of the values does not change the order. -/
theorem byKey_map (f : String → ν → ω) (m : List (String × ν)) :
    byKey (m.map fun e => (e.1, f e.1 e.2)) = (byKey m).map fun e => (e.1, f e.1 e.2) := by
  have same : ∀ a ∈ m, ∀ b ∈ m, a.1 ≤ b.1 ↔ a.1 ≤ b.1 := fun _ _ _ _ => Iff.rfl
  exact (List.map_insertionSort (fun a b : String × ν => a.1 ≤ b.1)
    (fun a b : String × ω => a.1 ≤ b.1) (fun e => (e.1, f e.1 e.2)) m same).symm

theorem byKey_byKey : byKey (byKey m) = byKey m :=
  byKey_of_sorted (sorted_byKey m)

end Unchain.Lib.Assoc
