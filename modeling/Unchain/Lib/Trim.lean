import Mathlib.Data.List.Basic

/-!
Lists that lose some of their elements and keep the others in order.

`Trims kept dropped xs ys` says that `ys` comes from `xs` by leaving out elements
that satisfy `dropped` and passing on every other one to a related element.
-/

namespace Unchain.Lib

variable {α : Type}

inductive Trims (kept : α → α → Prop) (dropped : α → Prop) : List α → List α → Prop where
  | nil : Trims kept dropped [] []
  | keep {x y : α} {xs ys : List α} : kept x y → Trims kept dropped xs ys →
      Trims kept dropped (x :: xs) (y :: ys)
  | drop {x : α} {xs ys : List α} : dropped x → Trims kept dropped xs ys →
      Trims kept dropped (x :: xs) ys

namespace Trims

variable {kept : α → α → Prop} {dropped : α → Prop} {xs ys : List α}

/-- An element with a property no dropped element has leaves a trace. -/
theorem exists_mem {P Q : α → Prop} (pass : ∀ x y, kept x y → P x → Q y)
    (stays : ∀ x, dropped x → ¬ P x) (h : Trims kept dropped xs ys) {x : α} (mem : x ∈ xs)
    (hx : P x) : ∃ y ∈ ys, Q y := by
  induction h with
  | nil => cases mem
  | @keep x' y _ _ related _ ih =>
    rcases List.mem_cons.mp mem with rfl | mem
    · exact ⟨y, by simp, pass _ _ related hx⟩
    · obtain ⟨y, mem, hy⟩ := ih mem
      exact ⟨y, by simp [mem], hy⟩
  | drop gone _ ih =>
    rcases List.mem_cons.mp mem with rfl | mem
    · exact absurd hx (stays _ gone)
    · exact ih mem

theorem imp {dropped' : α → Prop} (h : Trims kept dropped xs ys)
    (weaker : ∀ x ∈ xs, dropped x → dropped' x) : Trims kept dropped' xs ys := by
  induction h with
  | nil => exact .nil
  | keep related _ ih => exact .keep related (ih fun x mem => weaker x (by simp [mem]))
  | drop gone _ ih =>
    exact .drop (weaker _ (by simp) gone) (ih fun x mem => weaker x (by simp [mem]))

theorem of_filterMap {f : α → Option α} {xs : List α}
    (keeps : ∀ x ∈ xs, ∀ y, f x = some y → kept x y)
    (drops : ∀ x ∈ xs, f x = none → dropped x) : Trims kept dropped xs (xs.filterMap f) := by
  induction xs with
  | nil => exact .nil
  | cons x xs ih =>
    have rest := ih (fun x mem => keeps x (by simp [mem])) (fun x mem => drops x (by simp [mem]))
    cases image : f x with
    | none =>
      rw [List.filterMap_cons_none image]
      exact .drop (drops x (by simp) image) rest
    | some y =>
      rw [List.filterMap_cons_some image]
      exact .keep (keeps x (by simp) y image) rest

theorem of_filter {p : α → Bool} {xs : List α} (drops : ∀ x ∈ xs, p x = false → dropped x) :
    Trims Eq dropped xs (xs.filter p) := by
  induction xs with
  | nil => exact .nil
  | cons x xs ih =>
    have rest := ih fun x mem => drops x (by simp [mem])
    cases test : p x with
    | false =>
      rw [List.filter_cons_of_neg (by simp [test])]
      exact .drop (drops x (by simp) test) rest
    | true =>
      rw [List.filter_cons_of_pos test]
      exact .keep rfl rest

end Trims

end Unchain.Lib
