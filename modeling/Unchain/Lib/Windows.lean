import Mathlib.Data.List.Basic

/-!
Overlapping windows over a list.

A window holds `size` elements, the next one starts `step` behind it, and the last one is the
first that reaches the end. No element is lost as long as `step ≤ size`: the windows, each cut
where the next one starts, are the list (`rejoin_windows`).
-/

namespace Unchain.Lib.Windows

variable {α : Type}

/-- `fuel` bounds the number of windows; the length of the list is enough. -/
def windows (size step : Nat) : (fuel : Nat) → List α → List (List α)
  | 0, _ => []
  | fuel + 1, xs =>
    if xs = [] then []
    else if xs.length ≤ size then [xs]
    else xs.take size :: windows size step fuel (xs.drop step)

/-- Each window up to where the next one starts. -/
def rejoin (step : Nat) : List (List α) → List α
  | [] => []
  | [w] => w
  | w :: ws => w.take step ++ rejoin step ws

variable {size step : Nat} {fuel : Nat} {xs : List α}

theorem windows_ne_nil (nonempty : xs ≠ []) (pos : 0 < fuel) : windows size step fuel xs ≠ [] := by
  obtain ⟨n, rfl⟩ : ∃ n, fuel = n + 1 := ⟨fuel - 1, by omega⟩
  rw [windows, if_neg nonempty]
  split <;> simp

variable {w : List α}

theorem rejoin_cons {ws : List (List α)} (more : ws ≠ []) :
    rejoin step (w :: ws) = w.take step ++ rejoin step ws := by
  cases ws with
  | nil => exact absurd rfl more
  | cons v vs => rfl

theorem rejoin_windows (pos : 0 < step) (overlap : step ≤ size) (enough : xs.length ≤ fuel) :
    rejoin step (windows size step fuel xs) = xs := by
  induction fuel generalizing xs with
  | zero =>
    have empty : xs = [] := List.eq_nil_of_length_eq_zero (by omega)
    rw [empty]
    rfl
  | succ fuel ih =>
    rw [windows]
    split
    · rename_i empty
      rw [empty]
      rfl
    split
    · rfl
    · rename_i long
      have shorter : (xs.drop step).length ≤ fuel := by
        rw [List.length_drop]
        omega
      have rest : xs.drop step ≠ [] := by
        intro empty
        have := congrArg List.length empty
        rw [List.length_drop, List.length_nil] at this
        omega
      have more : windows size step fuel (xs.drop step) ≠ [] :=
        windows_ne_nil rest (by have := List.length_pos_iff.mpr rest; omega)
      rw [rejoin_cons more, ih shorter, List.take_take, Nat.min_eq_left overlap,
        List.take_append_drop]

theorem length_windows (mem : w ∈ windows size step fuel xs) : w.length ≤ size := by
  induction fuel generalizing xs with
  | zero => cases mem
  | succ fuel ih =>
    rw [windows] at mem
    split at mem
    · cases mem
    split at mem
    · rename_i short
      rw [List.mem_singleton.mp mem]
      exact short
    · rcases List.mem_cons.mp mem with rfl | mem
      · exact List.length_take_le _ _
      · exact ih mem

theorem mem_of_mem_windows (mem : w ∈ windows size step fuel xs) {x : α} (here : x ∈ w) :
    x ∈ xs := by
  induction fuel generalizing xs with
  | zero => cases mem
  | succ fuel ih =>
    rw [windows] at mem
    split at mem
    · cases mem
    split at mem
    · rwa [List.mem_singleton.mp mem] at here
    · rcases List.mem_cons.mp mem with rfl | mem
      · exact List.mem_of_mem_take here
      · exact List.mem_of_mem_drop (ih mem)

end Unchain.Lib.Windows
