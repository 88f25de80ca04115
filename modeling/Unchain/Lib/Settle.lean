import Mathlib.Order.Basic

/-!
A number that states the size of the text it stands in.

The size is written in and taken again until it comes out as it went in. A size that grows with the
width of the number, and depends on nothing else about it, settles: each round that changes the
number makes it wider (`settle_settles`).
-/

namespace Unchain.Lib

/-- Write the size in until it comes out again; `none` when the rounds run out. -/
def settle (size : Nat → Nat) : (rounds entry : Nat) → (previous : Option Nat) → Option Nat
  | 0, _, _ => none
  | rounds + 1, entry, previous =>
    if some (size entry) = previous then some entry
    else settle size rounds (size entry) (some (size entry))

structure SizedByWidth (size width : Nat → Nat) (largest : Nat) : Prop where
  bounded : ∀ n, size n ≤ largest
  wider : ∀ a b, a ≤ b → width a ≤ width b
  grows : ∀ a b, a ≤ largest → b ≤ largest → width a ≤ width b → size a ≤ size b

variable {size width : Nat → Nat} {largest : Nat}

/-- What one round leaves is settled, or wider. -/
theorem SizedByWidth.settles_or_widens (sized : SizedByWidth size width largest) {entry : Nat}
    (small : entry ≤ largest) (below : entry ≤ size entry) :
    size (size entry) = size entry ∨ width entry < width (size entry) := by
  have bound := sized.bounded entry
  obtain wide | same := Nat.lt_or_eq_of_le (sized.wider _ _ below)
  · exact .inr wide
  · refine .inl (Nat.le_antisymm ?_ ?_)
    · exact sized.grows _ _ bound small (Nat.le_of_eq same.symm)
    · exact sized.grows _ _ small bound (Nat.le_of_eq same)

theorem settle_from (sized : SizedByWidth size width largest) (rounds : Nat) {entry : Nat}
    {previous : Option Nat} (small : entry ≤ largest) (below : entry ≤ size entry)
    (stated : previous = none ∨ previous = some entry)
    (enough : width largest - width entry + 2 ≤ rounds) :
    ∃ n, settle size rounds entry previous = some n ∧ size n = n := by
  induction rounds generalizing entry previous with
  | zero => omega
  | succ rounds ih =>
    have bound := sized.bounded entry
    rw [settle]
    split
    · rename_i same
      obtain none | some := stated
      · rw [none] at same
        cases same
      · rw [some] at same
        exact ⟨entry, rfl, Option.some.inj same⟩
    · obtain settled | wide := sized.settles_or_widens small below
      · obtain ⟨more, rfl⟩ : ∃ more, rounds = more + 1 := ⟨rounds - 1, by omega⟩
        rw [settle, if_pos (congrArg _ settled)]
        exact ⟨_, rfl, settled⟩
      · have below' := sized.grows _ _ small bound (sized.wider _ _ below)
        have := sized.wider _ _ bound
        exact ih bound below' (.inr rfl) (by omega)

theorem settle_settles (sized : SizedByWidth size width largest) {rounds : Nat}
    (enough : width largest + 2 ≤ rounds) : ∃ n, settle size rounds 0 none = some n ∧ size n = n :=
  settle_from sized rounds (Nat.zero_le _) (Nat.zero_le _) (.inl rfl) (by omega)

end Unchain.Lib
