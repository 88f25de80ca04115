import Mathlib.Data.Nat.Notation

/-!
A loop of passes that runs while something is over its bound and the last pass changed something.

When every pass that changes something lowers a measure, the loop ends; it ends below the bound, or
with a pass that could not change anything (`repeatPass_ends`).
-/

namespace Unchain.Lib

variable {σ ε : Type}

/-- `none` when the rounds run out. -/
def repeatPass (exceeds : σ → Bool) (pass : σ → Except ε (σ × Bool)) :
    (rounds : ℕ) → σ → Option (Except ε σ)
  | 0, _ => none
  | rounds + 1, s =>
    if exceeds s then
      match pass s with
      | .error e => some (.error e)
      | .ok (s', changed) => if changed then repeatPass exceeds pass rounds s' else some (.ok s')
    else some (.ok s)

variable {exceeds : σ → Bool} {pass : σ → Except ε (σ × Bool)} {I : σ → Prop} {measure : σ → ℕ}

/-- How the loop ends: the invariant holds, and the state is below the bound or what a pass that
changed nothing left; or a pass failed. -/
def EndsWell (exceeds : σ → Bool) (pass : σ → Except ε (σ × Bool)) (I : σ → Prop) : Except ε σ → Prop
  | .ok s => I s ∧ (exceeds s = false ∨ ∃ t, I t ∧ exceeds t = true ∧ pass t = .ok (s, false))
  | .error e => ∃ t, I t ∧ exceeds t = true ∧ pass t = .error e

theorem repeatPass_ends (kept : ∀ s s' changed, I s → exceeds s = true → pass s = .ok (s', changed) →
      I s' ∧ (changed = true → measure s' < measure s)) {rounds : ℕ} {s : σ} (holds : I s)
    (enough : measure s < rounds) :
    ∃ result, repeatPass exceeds pass rounds s = some result ∧ EndsWell exceeds pass I result := by
  induction rounds generalizing s with
  | zero => exact absurd enough (Nat.not_lt_zero _)
  | succ rounds ih =>
    rw [repeatPass]
    split
    · rename_i above
      cases passed : pass s with
      | error e => exact ⟨_, rfl, s, holds, above, passed⟩
      | ok next =>
        obtain ⟨s', changed⟩ := next
        obtain ⟨holds', lower⟩ := kept s s' changed holds above passed
        cases changed with
        | true =>
          exact ih holds' (Nat.lt_of_lt_of_le (lower rfl) (Nat.le_of_lt_succ enough))
        | false =>
          exact ⟨_, rfl, holds', .inr ⟨s, holds, above, passed⟩⟩
    · rename_i below
      exact ⟨_, rfl, holds, .inl (by simpa using below)⟩

theorem repeatPass_keeps (kept : ∀ s s' changed, I s → pass s = .ok (s', changed) → I s')
    {rounds : ℕ} {s s' : σ} (holds : I s) (ran : repeatPass exceeds pass rounds s = some (.ok s')) :
    I s' := by
  induction rounds generalizing s with
  | zero => cases ran
  | succ rounds ih =>
    rw [repeatPass] at ran
    split at ran
    · cases passed : pass s with
      | error e =>
        rw [passed] at ran
        cases ran
      | ok next =>
        obtain ⟨t, changed⟩ := next
        have holds' := kept s t changed holds passed
        rw [passed] at ran
        cases changed with
        | true => exact ih holds' ran
        | false =>
          cases ran
          exact holds'
    · cases ran
      exact holds

end Unchain.Lib
