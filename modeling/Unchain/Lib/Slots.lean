import Mathlib.Data.List.Basic

/-!
Slots of a larger value, written one after the other.

A slot that is there shows what was written to it, and a write does not show in the slots apart from
it. After writes to slots apart from each other every slot shows its own write, in whatever order
they were made; a slot apart from all of them is as it was.
-/

namespace Unchain.Lib

variable {σ ι ν ω : Type}

/-- `show' i v` is what slot `i` shows when `v` was written to it. -/
structure Slots (read : ι → σ → Option ω) (write : ι → ν → σ → σ) (show' : ι → ν → ω)
    (apart : ι → ι → Prop) : Prop where
  same : ∀ i v s, (read i s).isSome → read i (write i v s) = some (show' i v)
  other : ∀ i j v s, apart i j → read j (write i v s) = read j s

def writeAll (write : ι → ν → σ → σ) : List (ι × ν) → σ → σ
  | [], s => s
  | (i, v) :: writes, s => writeAll write writes (write i v s)

variable {read : ι → σ → Option ω} {write : ι → ν → σ → σ} {show' : ι → ν → ω}
  {apart : ι → ι → Prop}

theorem Slots.read_of_apart (slots : Slots read write show' apart) {writes : List (ι × ν)} {j : ι}
    (away : ∀ w ∈ writes, apart w.1 j) (s : σ) : read j (writeAll write writes s) = read j s := by
  induction writes generalizing s with
  | nil => rfl
  | cons w writes ih =>
    obtain ⟨here, later⟩ := List.forall_mem_cons.mp away
    rw [writeAll, ih later, slots.other _ _ _ _ here]

theorem Slots.read_of_mem (slots : Slots read write show' apart) {writes : List (ι × ν)}
    (separate : writes.Pairwise fun w w' => apart w.1 w'.1 ∧ apart w'.1 w.1) {i : ι} {v : ν}
    (mem : (i, v) ∈ writes) {s : σ} (there : (read i s).isSome) :
    read i (writeAll write writes s) = some (show' i v) := by
  induction writes generalizing s with
  | nil => cases mem
  | cons w writes ih =>
    obtain ⟨first, rest⟩ := List.pairwise_cons.mp separate
    rcases List.mem_cons.mp mem with same | later
    · subst same
      rw [writeAll, slots.read_of_apart fun w later => (first w later).2, slots.same i v s there]
    · have untouched := slots.other w.1 i w.2 s (first _ later).1
      rw [writeAll]
      exact ih rest later (by rw [untouched]; exact there)

end Unchain.Lib
