import Unchain.Lib.KeyOrder
import Unchain.Python.Json

/-!
Values with the keys of their dictionaries in order.

`json.loads` of a text that was written with `sort_keys=True` gives a value back with the keys of
every dictionary in order. That changes no lookup, and no canonical text.
-/

namespace Unchain.Python

open Lib

mutual

def ordered : Value → Value
  | .list items => .list (orderedItems items)
  | .dict es => .dict (Assoc.byKey (orderedEntries es))
  | v => v

def orderedItems : List Value → List Value
  | [] => []
  | x :: xs => ordered x :: orderedItems xs

def orderedEntries : List (String × Value) → List (String × Value)
  | [] => []
  | (key, x) :: es => (key, ordered x) :: orderedEntries es

end

theorem orderedItems_eq_map (xs : List Value) : orderedItems xs = xs.map ordered := by
  induction xs with
  | nil => rfl
  | cons x xs ih => rw [orderedItems, ih, List.map_cons]

theorem orderedEntries_eq_map (es : Dict) :
    orderedEntries es = es.map fun e => (e.1, ordered e.2) := by
  induction es with
  | nil => rfl
  | cons e es ih =>
    rw [orderedEntries, ih, List.map_cons]

theorem ordered_dict (es : Dict) :
    ordered (.dict es) = .dict ((Assoc.byKey es).map fun e => (e.1, ordered e.2)) := by
  rw [ordered, orderedEntries_eq_map, Assoc.byKey_map fun _ => ordered]

theorem get_ordered (v : Value) (key : String) : (ordered v).get key = ordered (v.get key) := by
  cases v with
  | dict es =>
    rw [ordered, Value.get, Value.get, Value.entries_dict, Value.entries_dict, Assoc.get_byKey,
      orderedEntries_eq_map, Assoc.get_map_value key fun _ => ordered]
    cases Assoc.get key es <;> rfl
  | _ => rfl

theorem getD_ordered (v : Value) (key : String) (default : Value) :
    (ordered v).getD key (ordered default) = ordered (v.getD key default) := by
  cases v with
  | dict es =>
    rw [ordered, Value.getD, Value.getD, Value.entries_dict, Value.entries_dict, Assoc.get_byKey,
      orderedEntries_eq_map, Assoc.get_map_value key fun _ => ordered]
    cases Assoc.get key es <;> rfl
  | _ => rfl

theorem hasKey_ordered (v : Value) (key : String) : (ordered v).hasKey key = v.hasKey key := by
  cases v with
  | dict es =>
    rw [ordered, Value.hasKey, Value.hasKey, Assoc.has, Assoc.has, Value.entries_dict,
      Value.entries_dict, Assoc.get_byKey, orderedEntries_eq_map,
      Assoc.get_map_value key fun _ => ordered]
    cases Assoc.get key es <;> rfl
  | _ => rfl

theorem keys_ordered_perm (v : Value) :
    ((ordered v).entries.map Prod.fst).Perm (v.entries.map Prod.fst) := by
  cases v with
  | dict es =>
    have names : (orderedEntries es).map Prod.fst = es.map Prod.fst := by
      rw [orderedEntries_eq_map, List.map_map]
      rfl
    rw [ordered, Value.entries_dict, Value.entries_dict, ← names]
    exact Assoc.keys_byKey_perm _
  | _ => exact .refl _

theorem eqPy_str_ordered (v : Value) (s : String) : (ordered v).eqPy (.str s) = v.eqPy (.str s) := by
  cases v <;> rfl

theorem byKey_ordered (es : Dict) : Assoc.byKey ((Assoc.byKey es).map fun e => (e.1, ordered e.2)) =
    (Assoc.byKey es).map fun e => (e.1, ordered e.2) := by
  rw [Assoc.byKey_map fun _ => ordered, Assoc.byKey_byKey]

theorem ordered_ordered (v : Value) : ordered (ordered v) = ordered v := by
  induction v using Value.deepInduction with
  | list items ih =>
    rw [ordered, ordered, orderedItems_eq_map, orderedItems_eq_map, List.map_map]
    exact congrArg Value.list (List.map_congr_left ih)
  | dict es ih =>
    rw [ordered_dict, ordered_dict, byKey_ordered, List.map_map]
    refine congrArg Value.dict (List.map_congr_left fun e mem => ?_)
    simp only [Function.comp_apply, ih e (Assoc.mem_byKey.mp mem)]
  | _ => rfl

/-! ### Canonical texts -/

theorem writableItems_iff {vs : List Value} : WritableItems vs ↔ ∀ v ∈ vs, v.Writable := by
  induction vs with
  | nil => simp [WritableItems]
  | cons v vs ih => simp [WritableItems, ih]

theorem writableEntries_iff {es : Dict} : WritableEntries es ↔ ∀ e ∈ es, e.2.Writable := by
  induction es with
  | nil => simp [WritableEntries]
  | cons e es ih =>
    simp [WritableEntries, ih]

theorem writable_ordered {v : Value} : v.Writable → (ordered v).Writable := by
  induction v using Value.deepInduction with
  | list items ih =>
    intro writable
    rw [Value.Writable, writableItems_iff] at writable
    rw [ordered, orderedItems_eq_map, Value.Writable, writableItems_iff]
    intro x mem
    obtain ⟨y, mem', rfl⟩ := List.mem_map.mp mem
    exact ih y mem' (writable y mem')
  | dict es ih =>
    intro writable
    rw [Value.Writable, writableEntries_iff] at writable
    rw [ordered_dict, Value.Writable, writableEntries_iff]
    intro e mem
    obtain ⟨y, mem', rfl⟩ := List.mem_map.mp mem
    have here := Assoc.mem_byKey.mp mem'
    exact ih y here (writable y here)
  | _ => exact fun writable => writable

theorem sorted_json_dict (display : Display) (es : Dict) : ((Value.dict es).json display).sorted =
      .obj ((Assoc.byKey es).map fun e => (e.1.toList, (e.2.json display).sorted)) := by
  rw [Value.json, Json.sorted, Json.sortedMembers_eq_map, entriesJson_eq_map, List.map_map]
  have order : ∀ a ∈ es, ∀ b ∈ es, a.1 ≤ b.1 ↔
      Json.NameLE (a.1.toList, (a.2.json display).sorted) (b.1.toList, (b.2.json display).sorted) := by
    intro a _ b _
    simp only [Json.NameLE, String.ofList_toList]
  exact congrArg Json.obj (List.map_insertionSort (fun a b : String × Value => a.1 ≤ b.1)
    Json.NameLE (fun e => (e.1.toList, (e.2.json display).sorted)) es order).symm

theorem sorted_json_ordered (display : Display) (v : Value) :
    ((ordered v).json display).sorted = (v.json display).sorted := by
  induction v using Value.deepInduction with
  | list items ih =>
    rw [ordered, orderedItems_eq_map, Value.json, Value.json, Json.sorted, Json.sorted,
      Json.sortedItems_eq_map, Json.sortedItems_eq_map, itemsJson_eq_map, itemsJson_eq_map,
      List.map_map, List.map_map, List.map_map]
    exact congrArg Json.arr (List.map_congr_left ih)
  | dict es ih =>
    rw [ordered_dict, sorted_json_dict, sorted_json_dict, byKey_ordered, List.map_map]
    refine congrArg Json.obj (List.map_congr_left fun e mem => ?_)
    simp only [Function.comp_apply, ih e (Assoc.mem_byKey.mp mem)]
  | _ => rfl

theorem canonicalJson_ordered {display : Display} {v : Value} {bytes : Utf8.Bytes}
    (h : canonicalJson display v = .ok bytes) : canonicalJson display (ordered v) = .ok bytes := by
  have writable := writable_of_canonicalJson h
  rw [canonicalJson_of_writable writable] at h
  rw [canonicalJson_of_writable (writable_ordered writable), Json.canonical, sorted_json_ordered]
  exact h

end Unchain.Python
