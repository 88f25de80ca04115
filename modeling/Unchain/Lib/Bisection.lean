import Mathlib.Data.Nat.Find

/-!
The last index that fits, by bisection.

The search halves a range and keeps the last midpoint that fitted. It finds an index that fits
whatever the test is; it finds the last one exactly when every midpoint below that one, on the way
to it, fits (`bisect_eq_iff`). A test that holds up to some index and nowhere above meets this.
-/

namespace Unchain.Lib

def midpoint (low stop : Nat) : Nat := (low + (stop - 1)) / 2

theorem le_midpoint {low stop : Nat} (open' : low < stop) : low ≤ midpoint low stop := by
  unfold midpoint
  omega

theorem midpoint_lt {low stop : Nat} (open' : low < stop) : midpoint low stop < stop := by
  unfold midpoint
  omega

/-- The last midpoint that fits while `low` and `stop` close in on each other. -/
def bisect (fits : Nat → Bool) (best low stop : Nat) : Nat :=
  if low < stop then
    if fits (midpoint low stop) then bisect fits (midpoint low stop) (midpoint low stop + 1) stop
    else bisect fits best low (midpoint low stop)
  else best
termination_by stop - low
decreasing_by
  · have := @le_midpoint low stop ‹_›
    omega
  · have := @le_midpoint low stop ‹_›
    have := @midpoint_lt low stop ‹_›
    omega

/-- The midpoints that lead to an index. -/
def toward (p low stop : Nat) : List Nat :=
  if low < stop then
    midpoint low stop :: if midpoint low stop ≤ p then toward p (midpoint low stop + 1) stop
      else toward p low (midpoint low stop)
  else []
termination_by stop - low
decreasing_by
  · have := @le_midpoint low stop ‹_›
    omega
  · have := @le_midpoint low stop ‹_›
    have := @midpoint_lt low stop ‹_›
    omega

variable {fits : Nat → Bool}

theorem bisect_fits {best low stop : Nat} (fitting : fits best = true) :
    fits (bisect fits best low stop) = true := by
  fun_induction bisect fits best low stop with
  | case1 best low stop open' fitsHere ih => exact ih fitsHere
  | case2 best low stop open' notHere ih => exact ih fitting
  | case3 best low stop closed => exact fitting

theorem bisect_range (fits : Nat → Bool) (best low stop : Nat) : bisect fits best low stop = best ∨
      low ≤ bisect fits best low stop ∧ bisect fits best low stop < stop := by
  fun_induction bisect fits best low stop with
  | case1 best low stop open' fitsHere ih =>
    have := le_midpoint open'
    have := midpoint_lt open'
    omega
  | case2 best low stop open' notHere ih =>
    have := midpoint_lt open'
    omega
  | case3 best low stop closed => exact .inl rfl

/-- The search ends at the last index that fits exactly when no midpoint on the way misleads it. -/
theorem bisect_eq_iff {p best low stop : Nat} (fitting : fits p = true)
    (last : ∀ q, q < stop → fits q = true → q ≤ p) (below : p < stop) (behind : best ≤ low)
    (passed : p < low → best = p) :
    bisect fits best low stop = p ↔ ∀ m ∈ toward p low stop, m < p → fits m = true := by
  fun_induction bisect fits best low stop with
  | case1 best low stop open' fitsHere ih =>
    have notAfter := last _ (midpoint_lt open') fitsHere
    rw [toward, if_pos open', if_pos notAfter, List.forall_mem_cons]
    have ih := ih last below (Nat.le_succ _) fun before => by omega
    rw [ih]
    exact ⟨fun rest => ⟨fun _ => fitsHere, rest⟩, fun both => both.2⟩
  | case2 best low stop open' notHere ih =>
    rw [toward, if_pos open']
    have after := le_midpoint open'
    by_cases reached : midpoint low stop ≤ p
    · -- the test fails before the last index that fits, and the search turns away from it
      have before : midpoint low stop < p := by
        refine Nat.lt_of_le_of_ne reached fun same => ?_
        rw [same] at notHere
        exact notHere fitting
      rw [if_pos reached, List.forall_mem_cons]
      have range := bisect_range fits best low (midpoint low stop)
      constructor
      · intro found
        omega
      · intro led
        exact absurd (led.1 before) notHere
    · rw [if_neg reached, List.forall_mem_cons]
      have ih := ih (fun q small => last q (by have := midpoint_lt open'; omega)) (by omega)
        behind passed
      rw [ih]
      exact ⟨fun rest => ⟨fun before => absurd (Nat.le_of_lt before) reached, rest⟩,
        fun both => both.2⟩
  | case3 best low stop closed =>
    rw [toward, if_neg closed]
    have same := passed (by omega)
    simp [same]

end Unchain.Lib
