import Unchain.Lib.Assoc

/-!
Quotas on keyed maps, over whole runs.

`tally` counts the entries of a map that matter to a quota. A store under a key moves the tally by
what the key held and what it holds now (`tally_set`). A quota that every step of a run keeps under
a condition, and only under it, is kept in all states of a run exactly when each step meets the
condition (`forall_scanl_iff`).
-/

namespace Unchain.Lib.Quota

/-! ### Tallies -/

section Tally

variable {κ ν : Type}

/-- How many entries of the map count. -/
def tally (counts : ν → Bool) (m : List (κ × ν)) : Nat := m.countP fun entry => counts entry.2

theorem tally_cons {counts : ν → Bool} (entry : κ × ν) (m : List (κ × ν)) :
    tally counts (entry :: m) = tally counts m + (counts entry.2).toNat := by
  rw [tally, List.countP_cons, tally]
  cases counts entry.2 <;> rfl

variable [DecidableEq κ]

/-- Whether what is stored under the key counts. -/
def held (counts : ν → Bool) (k : κ) (m : List (κ × ν)) : Bool := (Assoc.get k m).any counts

variable {counts : ν → Bool}

/-- A store takes out what the key held and puts in the new value. -/
theorem tally_set (k : κ) (v : ν) (m : List (κ × ν)) :
    tally counts (Assoc.set k v m) + (held counts k m).toNat =
      tally counts m + (counts v).toNat := by
  induction m with
  | nil =>
    rw [Assoc.set, tally_cons]
    rfl
  | cons entry m ih =>
    obtain ⟨k', v'⟩ := entry
    by_cases same : k' = k
    · simp only [Assoc.set, if_pos same, tally_cons, held, Assoc.get_cons, Option.any_some]
      omega
    · simp only [Assoc.set, if_neg same, tally_cons, held, Assoc.get_cons]
      rw [held] at ih
      omega

end Tally

/-! ### Runs -/

section Runs

variable {σ ι : Type} (step : σ → ι → σ)

/-- Every step of the run meets the condition, in the state it is taken from. -/
def EachStep (C : σ → ι → Prop) : σ → List ι → Prop
  | _, [] => True
  | s, i :: is => C s i ∧ EachStep C (step s i) is

variable {step}

/-- Let the steps keep an invariant, and a property exactly under a condition on the state before
and the step. Then the property holds in all states of a run iff each step meets the condition. -/
theorem forall_scanl_iff {I P : σ → Prop} {C : σ → ι → Prop} (keeps : ∀ s i, I s → I (step s i))
    (exact_of : ∀ s i, I s → P s → (P (step s i) ↔ C s i)) {s : σ} (start : I s) (is : List ι) :
    (∀ t ∈ is.scanl step s, P t) ↔ P s ∧ EachStep step C s is := by
  induction is generalizing s with
  | nil => simp [EachStep]
  | cons i is ih =>
    rw [List.scanl_cons, List.forall_mem_cons, ih (keeps s i start)]
    constructor
    · rintro ⟨now, next, rest⟩
      exact ⟨now, (exact_of s i start now).mp next, rest⟩
    · rintro ⟨now, meets, rest⟩
      exact ⟨now, (exact_of s i start now).mpr meets, rest⟩

end Runs

end Unchain.Lib.Quota
