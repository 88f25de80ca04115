import Mathlib.Data.List.Nodup
import Mathlib.Data.List.Chain

/-!
Chains of parents in a parent-pointer structure.

`walk` follows parent pointers with fuel. A rank that decreases along every
parent pointer bounds the walk (`walk_of_rank`), and the chain it returns is
duplicate-free (`Ascends.nodup`); a set of nodes closed under parents and
without a root traps it at every fuel (`walk_eq_none_of_trap`).
-/

namespace Unchain.Lib.ParentChain

variable {α : Type} {parent : α → Option α}

/-- The nodes from `v` up to a root, or `none` when the fuel runs out. -/
def walk (parent : α → Option α) : Nat → α → Option (List α)
  | 0, _ => none
  | fuel + 1, v =>
    match parent v with
    | none => some [v]
    | some p => (walk parent fuel p).map (v :: ·)

/-- `Ascends parent v path`: the path starts at `v`, each node is followed by its
parent, and the last one is a root. -/
inductive Ascends (parent : α → Option α) : α → List α → Prop where
  | root {v : α} : parent v = none → Ascends parent v [v]
  | step {v p : α} {path : List α} : parent v = some p → Ascends parent p path →
      Ascends parent v (v :: path)

variable {fuel : Nat} {path : List α} {v : α}

theorem walk_ascends (h : walk parent fuel v = some path) : Ascends parent v path := by
  induction fuel generalizing v path with
  | zero => simp [walk] at h
  | succ fuel ih =>
    rw [walk] at h
    cases hp : parent v with
    | none =>
      simp only [hp, Option.some.injEq] at h
      exact h ▸ .root hp
    | some p =>
      simp only [hp, Option.map_eq_some_iff] at h
      obtain ⟨tail, htail, rfl⟩ := h
      exact .step hp (ih htail)

variable {rank : α → Nat}

section

variable (drops : ∀ v p, parent v = some p → rank p < rank v)

include drops

theorem walk_of_rank (enough : rank v < fuel) : ∃ path, walk parent fuel v = some path := by
  induction fuel generalizing v with
  | zero => omega
  | succ fuel ih =>
    rw [walk]
    cases hp : parent v with
    | none => exact ⟨_, rfl⟩
    | some p =>
      have := drops v p hp
      obtain ⟨path, hpath⟩ := ih (v := p) (by omega)
      exact ⟨v :: path, by simp [hpath]⟩

theorem Ascends.mem_rank_le (h : Ascends parent v path) : ∀ u ∈ path, rank u ≤ rank v := by
  induction h with
  | root _ => simp
  | step hp _ ih =>
    intro u hu
    rcases List.mem_cons.mp hu with rfl | tail
    · exact le_rfl
    · exact (ih u tail).trans (drops _ _ hp).le

theorem Ascends.nodup (h : Ascends parent v path) : path.Nodup := by
  induction h with
  | root _ => simp
  | step hp tail ih =>
    refine List.nodup_cons.mpr ⟨fun mem => ?_, ih⟩
    have := tail.mem_rank_le drops _ mem
    exact absurd (drops _ _ hp) (by omega)

end

section

variable (h : Ascends parent v path)

include h

theorem Ascends.head : path.head? = some v := by
  cases h <;> rfl

theorem Ascends.last_root : ∃ r, path.getLast? = some r ∧ parent r = none := by
  induction h with
  | root hp => exact ⟨_, rfl, hp⟩
  | step _ tail ih =>
    obtain ⟨r, hr, root⟩ := ih
    refine ⟨r, ?_, root⟩
    cases tail <;> simpa using hr

theorem Ascends.links : path.IsChain fun child p => parent child = some p := by
  induction h with
  | root _ => simp
  | step hp tail ih =>
    cases tail with
    | root _ => simpa using hp
    | step _ _ => exact List.isChain_cons_cons.mpr ⟨hp, ih⟩

theorem Ascends.unique {path' : List α} (h' : Ascends parent v path') : path = path' := by
  induction h generalizing path' with
  | root hp =>
    cases h' with
    | root _ => rfl
    | step hp' _ => simp [hp] at hp'
  | step hp _ ih =>
    cases h' with
    | root hp' => simp [hp] at hp'
    | step hp' tail =>
      cases hp.symm.trans hp'
      rw [ih tail]

end

/-- A property closed under parents holds along the whole chain. -/
theorem Ascends.forall_mem (inside : α → Prop)
    (closed : ∀ v p, inside v → parent v = some p → inside p) (h : Ascends parent v path)
    (start : inside v) : ∀ u ∈ path, inside u := by
  induction h with
  | root _ => simpa using start
  | step hp _ ih =>
    intro u hu
    rcases List.mem_cons.mp hu with rfl | tail
    · exact start
    · exact ih (closed _ _ start hp) u tail

/-- Nodes that all have a parent among themselves are never left. -/
theorem walk_eq_none_of_trap (trap : α → Prop)
    (closed : ∀ v, trap v → ∃ p, parent v = some p ∧ trap p) (fuel : Nat) (h : trap v) :
    walk parent fuel v = none := by
  induction fuel generalizing v with
  | zero => rfl
  | succ fuel ih =>
    obtain ⟨p, hp, inside⟩ := closed v h
    simp [walk, hp, ih inside]

end Unchain.Lib.ParentChain
