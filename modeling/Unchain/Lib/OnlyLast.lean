import Mathlib.Data.List.Basic

/-!
Traces that an element of some kind ends.
-/

namespace Unchain.Lib

variable {α : Type} {P : α → Prop} {xs : List α}

/-- An element that satisfies `P` is followed by nothing, so that there is at most one. -/
def OnlyLast (P : α → Prop) (xs : List α) : Prop :=
  ∀ before x after, xs = before ++ x :: after → P x → after = []

theorem onlyLast_of_none (h : ∀ x ∈ xs, ¬ P x) : OnlyLast P xs := by
  rintro before x after rfl holds
  exact absurd holds (h x (by simp))

theorem onlyLast_concat (h : ∀ x ∈ xs, ¬ P x) (last : α) : OnlyLast P (xs ++ [last]) := by
  intro before x after split holds
  rcases List.eq_nil_or_concat after with none | ⟨after, y, rfl⟩
  · exact none
  · have split : xs ++ [last] = (before ++ x :: after) ++ [y] := by simpa using split
    have same : xs = before ++ x :: after := (List.append_inj' split rfl).1
    exact absurd holds (h x (by simp [same]))

end Unchain.Lib
