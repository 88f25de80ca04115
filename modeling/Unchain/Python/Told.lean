import Unchain.Python.Ordered

/-!
What the canonical JSON of a record tells about its fields.

A writer `f` is `Told` when values written with it can be told apart by their canonical JSON. The
writers of a record's fields are told apart by the record itself.
-/

namespace Unchain.Python

open Lib

def canonicalForm (display : Display) (v : Value) : Json := (v.json display).sorted

/-- The canonical JSON of what is written determines what was written. -/
def Told {α : Type} (display : Display) (f : α → Value) : Prop :=
  Function.Injective fun x => canonicalForm display (f x)

namespace Told

variable {display : Display} {α β : Type}

theorem str : Told display Value.str := by
  intro s t same
  exact String.toList_inj.mp (Json.str.inj same)

theorem int : Told display Value.int := by
  intro m n same
  exact Json.int.inj same

theorem bool : Told display Value.bool := by
  intro a b same
  exact Json.bool.inj same

theorem name {named : String → Option α} {name : α → String} (knows : ∀ a, named (name a) = some a) :
    Told display fun a => .str (name a) := by
  intro a b same
  have names : name a = name b := str same
  have first := knows a
  rw [names, knows b] at first
  exact (Option.some.inj first).symm

theorem list {f : α → Value} (told : Told display f) :
    Told display fun xs : List α => .list (xs.map f) := by
  intro xs ys same
  simp only [canonicalForm, Value.json, Json.sorted, Json.sortedItems_eq_map, itemsJson_eq_map,
    List.map_map, Json.arr.injEq] at same
  exact List.map_injective_iff.mpr told same

end Told

/-- Two records with one canonical form, each with distinct keys. -/
structure Alike (display : Display) (es fs : Dict) : Prop where
  same : canonicalForm display (.dict es) = canonicalForm display (.dict fs)
  distinct : (Assoc.keys es).Nodup
  distinct' : (Assoc.keys fs).Nodup

namespace Alike

variable {display : Display} {α : Type} {es fs : Dict}

theorem inner {v w : Value} (both : Alike display es fs) (name : String)
    (holds : Assoc.get name es = some v) (holds' : Assoc.get name fs = some w) :
    canonicalForm display v = canonicalForm display w :=
  member_eq_of_sorted both.distinct both.distinct' both.same holds holds'

theorem field {f : α → Value} {x y : α} (both : Alike display es fs) (told : Told display f)
    (name : String) (holds : Assoc.get name es = some (f x))
    (holds' : Assoc.get name fs = some (f y)) : x = y :=
  told (both.inner name holds holds')

end Alike

/-! ### Values without fractions -/

mutual

/-- No fraction and no foreign object anywhere in the value. -/
def Value.Exact : Value → Prop
  | .float _ => False
  | .obj _ _ => False
  | .list items => ExactItems items
  | .dict entries => ExactEntries entries
  | _ => True

def ExactItems : List Value → Prop
  | [] => True
  | v :: vs => v.Exact ∧ ExactItems vs

def ExactEntries : List (String × Value) → Prop
  | [] => True
  | (_, v) :: es => v.Exact ∧ ExactEntries es

end

theorem exactItems_iff {vs : List Value} : ExactItems vs ↔ ∀ v ∈ vs, v.Exact := by
  induction vs with
  | nil => simp [ExactItems]
  | cons v vs ih => simp [ExactItems, ih]

theorem exactEntries_iff {es : Dict} : ExactEntries es ↔ ∀ e ∈ es, e.2.Exact := by
  induction es with
  | nil => simp [ExactEntries]
  | cons e es ih =>
    simp [ExactEntries, ih]

variable {display : Display}

theorem Value.Exact.plain {v : Value} : v.Exact → (v.json display).Plain := by
  induction v using Value.deepInduction with
  | list items ih =>
    intro exact
    rw [Value.Exact, exactItems_iff] at exact
    rw [Value.json, Json.Plain, Json.plainItems_iff, itemsJson_eq_map]
    intro j mem
    obtain ⟨v, here, rfl⟩ := List.mem_map.mp mem
    exact ih v here (exact v here)
  | dict es ih =>
    intro exact
    rw [Value.Exact, exactEntries_iff] at exact
    rw [Value.json, Json.Plain, Json.plainMembers_iff, entriesJson_eq_map]
    intro m mem
    obtain ⟨e, here, rfl⟩ := List.mem_map.mp mem
    exact ih e here (exact e here)
  | float x => exact False.elim
  | obj cls attrs => exact False.elim
  | _ => exact fun _ => trivial

/-- What one function tells apart in two lists, another tells apart in them. -/
theorem map_eq_of_map_eq {α β γ : Type} {f : α → β} {g : α → γ} :
    ∀ {xs ys : List α}, (∀ x ∈ xs, ∀ y ∈ ys, f x = f y → g x = g y) → xs.map f = ys.map f →
      xs.map g = ys.map g
  | [], [], _, _ => rfl
  | [], _ :: _, _, same => by cases same
  | _ :: _, [], _, same => by cases same
  | x :: xs, y :: ys, told, same => by
    rw [List.map_cons, List.map_cons, List.cons.injEq] at same
    rw [List.map_cons, List.map_cons, told x List.mem_cons_self y List.mem_cons_self same.1]
    refine congrArg _ (map_eq_of_map_eq (fun x memX y memY => ?_) same.2)
    exact told x (List.mem_cons_of_mem _ memX) y (List.mem_cons_of_mem _ memY)

theorem ordered_eq_of_canonicalForm {v : Value} :
    ∀ {w : Value}, v.Exact → w.Exact → canonicalForm display v = canonicalForm display w →
      ordered v = ordered w := by
  induction v using Value.deepInduction with
  | list items ih =>
    intro w exactV exactW same
    cases w with
    | list items' =>
      simp only [canonicalForm, Value.json, Json.sorted, Json.sortedItems_eq_map,
        itemsJson_eq_map, List.map_map, Json.arr.injEq] at same
      rw [Value.Exact, exactItems_iff] at exactV exactW
      rw [ordered, ordered, orderedItems_eq_map, orderedItems_eq_map]
      refine congrArg Value.list (map_eq_of_map_eq (fun x memX y memY told => ?_) same)
      exact ih x memX (exactV x memX) (exactW y memY) told
    | float x | obj cls attrs => exact exactW.elim
    | dict es => rw [canonicalForm, canonicalForm, sorted_json_dict] at same; cases same
    | _ => cases same
  | dict es ih =>
    intro w exactV exactW same
    cases w with
    | dict es' =>
      rw [canonicalForm, canonicalForm, sorted_json_dict, sorted_json_dict, Json.obj.injEq] at same
      rw [Value.Exact, exactEntries_iff] at exactV exactW
      rw [ordered_dict, ordered_dict]
      refine congrArg Value.dict (map_eq_of_map_eq (fun x memX y memY told => ?_) same)
      simp only [Prod.mk.injEq, String.toList_inj] at told ⊢
      rw [Assoc.mem_byKey] at memX memY
      exact ⟨told.1, ih x memX (exactV x memX) (exactW y memY) told.2⟩
    | float x | obj cls attrs => exact exactW.elim
    | _ => rw [canonicalForm, canonicalForm, sorted_json_dict] at same; cases same
  | float x | obj cls attrs => exact fun exactV => exactV.elim
  | str s =>
    intro w _ exactW same
    cases w with
    | str t => rw [Told.str same]
    | float x | obj cls attrs => exact exactW.elim
    | dict es => rw [canonicalForm, canonicalForm, sorted_json_dict] at same; cases same
    | _ => cases same
  | _ =>
    intro w _ exactW same
    cases w with
    | dict es => rw [canonicalForm, canonicalForm, sorted_json_dict] at same; cases same
    | float x | obj cls attrs => exact exactW.elim
    | _ => cases same <;> rfl

end Unchain.Python
