import Mathlib.Logic.Relation

/-!
Links between nodes, stored one after the other.

While no path comes back to the node it starts from, a new link closes a cycle exactly when its target
is its source or leads to it (`acyclic_append_iff`).
-/

namespace Unchain.Lib.Links

variable {α : Type}

/-- A step along a link. -/
def Follows (links : List (α × α)) (a b : α) : Prop := (a, b) ∈ links

/-- Following links from a node never comes back to it. -/
def Acyclic (links : List (α × α)) : Prop := ∀ a, ¬ Relation.TransGen (Follows links) a a

theorem acyclic_nil : Acyclic ([] : List (α × α)) := by
  intro a path
  obtain ⟨b, step, -⟩ := Relation.TransGen.head'_iff.mp path
  cases step

variable {links : List (α × α)} {source target : α}

theorem path_of_append {a b : α}
    (path : Relation.TransGen (Follows (links ++ [(source, target)])) a b) :
    Relation.TransGen (Follows links) a b ∨
      Relation.ReflTransGen (Follows links) a source ∧
        Relation.ReflTransGen (Follows links) target b := by
  have step {x y : α} (taken : Follows (links ++ [(source, target)]) x y) :
      Follows links x y ∨ x = source ∧ y = target := by
    rcases List.mem_append.mp taken with old | new
    · exact .inl old
    · exact .inr (by simpa using List.mem_singleton.mp new)
  induction path with
  | single taken =>
    rcases step taken with old | ⟨rfl, rfl⟩
    · exact .inl (.single old)
    · exact .inr ⟨.refl, .refl⟩
  | tail _ taken ih =>
    rcases ih, step taken with ⟨path | ⟨first, second⟩, old | ⟨rfl, rfl⟩⟩
    · exact .inl (path.tail old)
    · exact .inr ⟨path.to_reflTransGen, .refl⟩
    · exact .inr ⟨first, second.tail old⟩
    · exact .inr ⟨first, .refl⟩

theorem path_append {more : List (α × α)} {a b : α} (path : Relation.TransGen (Follows links) a b) :
    Relation.TransGen (Follows (links ++ more)) a b :=
  Relation.TransGen.mono (fun _ _ taken => List.mem_append_left more taken) _ _ path

theorem acyclic_append_iff (acyclic : Acyclic links) : Acyclic (links ++ [(source, target)]) ↔
      source ≠ target ∧ ¬ Relation.TransGen (Follows links) target source := by
  have taken : Follows (links ++ [(source, target)]) source target := by simp [Follows]
  constructor
  · intro none
    constructor
    · rintro rfl
      exact none source (.single taken)
    · intro path
      exact none source (.head taken (path_append path))
  · rintro ⟨ne, unreached⟩ a path
    rcases path_of_append path with old | ⟨first, second⟩
    · exact acyclic a old
    · -- from the target the cycle goes on to the source
      rcases Relation.reflTransGen_iff_eq_or_transGen.mp (second.trans first) with eq | path
      · exact ne eq
      · exact unreached path

theorem no_path_of_no_link (unreached : ∀ link ∈ links, link.2 ≠ source) :
    ¬ Relation.TransGen (Follows links) target source := by
  intro path
  obtain ⟨b, -, last⟩ := Relation.TransGen.tail'_iff.mp path
  exact unreached _ last rfl

end Unchain.Lib.Links
