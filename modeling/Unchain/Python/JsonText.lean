import Unchain.Lib.JsonText
import Unchain.Python.Ordered

/-!
What equal canonical bytes say of dictionaries with floats in them.

The text of a float is left to the `Display`. As long as it is made of ordinary characters, two
dictionaries with the same canonical bytes hold values with the same canonical bytes under a name.
-/

namespace Unchain.Python

open Lib

/-- `float.__repr__` writes digits, signs, a point and an exponent. -/
def WritesFloats (display : Display) : Prop :=
  ∀ x : PyFloat, x.isFinite = true → ∀ c ∈ (display (.float x)).toList, Json.Ordinary c

variable {display : Display}

theorem lexical_json (floats : WritesFloats display) {v : Value} :
    v.Writable → (v.json display).Lexical := by
  induction v using Value.deepInduction with
  | float x => exact fun finite => floats x finite
  | list items ih =>
    intro writable
    rw [Value.Writable, writableItems_iff] at writable
    rw [Value.json, Json.Lexical, Json.lexicalItems_iff, itemsJson_eq_map]
    intro j mem
    obtain ⟨v, here, rfl⟩ := List.mem_map.mp mem
    exact ih v here (writable v here)
  | dict es ih =>
    intro writable
    rw [Value.Writable, writableEntries_iff] at writable
    rw [Value.json, Json.Lexical, Json.lexicalMembers_iff, entriesJson_eq_map]
    intro m mem
    obtain ⟨e, here, rfl⟩ := List.mem_map.mp mem
    exact ih e here (writable e here)
  | obj cls attrs => exact False.elim
  | _ => exact fun _ => trivial

theorem member?_json (name : String) (es : Dict) :
    ((Value.dict es).json display).member? name.toList =
      (Assoc.get name es).map (Value.json display) := by
  have inj : Function.Injective String.toList := fun _ _ same => String.toList_inj.mp same
  rw [Value.json, Json.member?, entriesJson_eq_map]
  induction es with
  | nil => rfl
  | cons e es ih =>
    obtain ⟨key, w⟩ := e
    by_cases same : key = name
    · simp [Assoc.get, same]
    · have other : ¬ key.toList = name.toList := fun eq => same (inj eq)
      simpa [Assoc.get, same, other] using ih

theorem canonicalJson_member (floats : WritesFloats display) {es fs : Dict} {bytes : Utf8.Bytes}
    (wrote : canonicalJson display (.dict es) = .ok bytes)
    (wrote' : canonicalJson display (.dict fs) = .ok bytes)
    (distinct : (Assoc.keys es).Nodup) (distinct' : (Assoc.keys fs).Nodup) {name : String}
    {v w : Value} (holds : Assoc.get name es = some v) (holds' : Assoc.get name fs = some w) :
    canonicalJson display v = canonicalJson display w := by
  have writable := writable_of_canonicalJson wrote
  have writable' := writable_of_canonicalJson wrote'
  have writableV : v.Writable := by
    rw [Value.Writable, writableEntries_iff] at writable
    exact writable _ (Assoc.mem_of_get holds)
  have writableW : w.Writable := by
    rw [Value.Writable, writableEntries_iff] at writable'
    exact writable' _ (Assoc.mem_of_get holds')
  have lexical := lexical_json floats writable
  have lexical' := lexical_json floats writable'
  rw [canonicalJson_of_writable writable] at wrote
  rw [canonicalJson_of_writable writable'] at wrote'
  have texts := Utf8.encode_injective (Except.ok.inj (wrote.trans wrote'.symm))
  have names : ∀ {es : Dict}, (Assoc.keys es).Nodup →
      ((entriesJson display es).map Prod.fst).Nodup := by
    intro es distinct
    have images : (entriesJson display es).map Prod.fst = (Assoc.keys es).map String.toList := by
      rw [entriesJson_eq_map, Assoc.keys, List.map_map, List.map_map]
      rfl
    rw [images]
    exact distinct.map fun _ _ same => String.toList_inj.mp same
  have member := Json.member?_canonical lexical lexical' (names distinct) (names distinct') texts
    name.toList
  have first := @member?_json display name es
  have second := @member?_json display name fs
  rw [Value.json] at first second
  rw [first, second, holds, holds'] at member
  have canonical : (v.json display).canonical = (w.json display).canonical := by
    simpa using member
  rw [canonicalJson_of_writable writableV, canonicalJson_of_writable writableW, canonical]

end Unchain.Python
