import Unchain.Lib.Effect
import Unchain.Lib.JsonSize
import Unchain.Python.Builtins

/-!
`json.dumps` and `json.loads` on dynamic values.

Every canonical encoder of the package writes with `ensure_ascii=False`, `sort_keys=True`
and compact separators. They differ in what they do with a value that strict JSON does not
have: `canonicalJson` refuses it, `canonicalContentBytes` writes its text. The text of a
float is left to the `Display`.
-/

namespace Unchain.Python

open Lib

variable (display : Display)

/-- The interpreter refuses to print more digits than it reads. -/
def Printable (n : Int) : Prop := (Json.natText n.natAbs).length ≤ maxStrDigits

instance (n : Int) : Decidable (Printable n) :=
  inferInstanceAs (Decidable ((Json.natText n.natAbs).length ≤ maxStrDigits))

/-- `int.__repr__`. -/
def intDigits (n : Int) : Except PyError Json :=
  if Printable n then .ok (.int n)
  else .error (.valueError "Exceeds the limit (4300 digits) for integer string conversion")

abbrev Fallback := Value → Except PyError Json

/-- `allow_nan=False`, and no `default`. -/
def refuse : Fallback
  | .float _ => .error (.valueError "Out of range float values are not JSON compliant")
  | _ => .error (.typeError "Object is not JSON serializable")

/-- `allow_nan=True` and `default=str`. -/
def writeText : Fallback
  | .float (.inf negative) => .ok (.num (if negative then "-Infinity" else "Infinity").toList)
  | .float _ => .ok (.num "NaN".toList)
  | v => .ok (.str (display v).toList)

variable (fallback : Fallback)

mutual

/-- The JSON value that `json.dumps` writes for a dynamic value. -/
def Value.toJson : Value → Except PyError Json
  | .none => .ok .null
  | .bool b => .ok (.bool b)
  | .int n => intDigits n
  | .float x =>
    if x.isFinite then .ok (.num (display (.float x)).toList) else fallback (.float x)
  | .str s => .ok (.str s.toList)
  | .list items => (itemsToJson items).map .arr
  | .dict entries => (entriesToJson entries).map .obj
  | .obj cls attrs => fallback (.obj cls attrs)

def itemsToJson : List Value → Except PyError (List Json)
  | [] => .ok []
  | v :: vs => do
    let j ← v.toJson
    let js ← itemsToJson vs
    return j :: js

def entriesToJson : List (String × Value) → Except PyError (List (List Char × Json))
  | [] => .ok []
  | (name, v) :: es => do
    let j ← v.toJson
    let js ← entriesToJson es
    return (name.toList, j) :: js

end

/-- `_canonical_json`: the canonical bytes of a value. -/
def canonicalJson (v : Value) : Except PyError Utf8.Bytes :=
  (v.toJson display refuse).map fun j => Utf8.encode j.canonical

/-- `canonical_content_bytes`. -/
def canonicalContentBytes (v : Value) : Except PyError Utf8.Bytes :=
  (v.toJson display (writeText display)).map fun j => Utf8.encode j.canonical

mutual

/-- `json.loads`: of two members with one name the later one stays. -/
def Value.ofJson (parseFloat : List Char → PyFloat) : Json → Value
  | .null => .none
  | .bool b => .bool b
  | .int n => .int n
  | .num text => .float (parseFloat text)
  | .str text => .str (String.ofList text)
  | .arr items => .list (itemsOfJson parseFloat items)
  | .obj members => .dict (membersOfJson parseFloat members [])

def itemsOfJson (parseFloat : List Char → PyFloat) : List Json → List Value
  | [] => []
  | j :: js => Value.ofJson parseFloat j :: itemsOfJson parseFloat js

def membersOfJson (parseFloat : List Char → PyFloat) : List (List Char × Json) → Dict → Dict
  | [], es => es
  | (name, j) :: ms, es =>
    membersOfJson parseFloat ms (Assoc.set (String.ofList name) (Value.ofJson parseFloat j) es)

end

/-! ### When a value can be written -/

mutual

/-- Everything in the value has a JSON text. -/
def Value.Writable : Value → Prop
  | .int n => Printable n
  | .float x => x.isFinite = true
  | .list items => WritableItems items
  | .dict entries => WritableEntries entries
  | .obj _ _ => False
  | _ => True

def WritableItems : List Value → Prop
  | [] => True
  | v :: vs => v.Writable ∧ WritableItems vs

def WritableEntries : List (String × Value) → Prop
  | [] => True
  | (_, v) :: es => v.Writable ∧ WritableEntries es

end

mutual

def Value.json : Value → Json
  | .none => .null
  | .bool b => .bool b
  | .int n => .int n
  | .float x => .num (display (.float x)).toList
  | .str s => .str s.toList
  | .list items => .arr (itemsJson items)
  | .dict entries => .obj (entriesJson entries)
  | .obj _ _ => .null

def itemsJson : List Value → List Json
  | [] => []
  | v :: vs => v.json :: itemsJson vs

def entriesJson : List (String × Value) → List (List Char × Json)
  | [] => []
  | (name, v) :: es => (name.toList, v.json) :: entriesJson es

end

variable {display fallback}

mutual

theorem toJson_of_writable : ∀ v : Value, v.Writable →
    v.toJson display fallback = .ok (v.json display)
  | .none, _ => rfl
  | .bool _, _ => rfl
  | .int n, writable => by
    rw [Value.Writable] at writable
    rw [Value.toJson, intDigits, if_pos writable, Value.json]
  | .float x, writable => by
    rw [Value.Writable] at writable
    rw [Value.toJson, if_pos writable, Value.json]
  | .str _, _ => rfl
  | .list items, writable => by
    rw [Value.Writable] at writable
    rw [Value.toJson, itemsToJson_of_writable items writable, Value.json]
    rfl
  | .dict entries, writable => by
    rw [Value.Writable] at writable
    rw [Value.toJson, entriesToJson_of_writable entries writable, Value.json]
    rfl
  | .obj _ _, writable => by
    rw [Value.Writable] at writable
    exact writable.elim

theorem itemsToJson_of_writable : ∀ vs : List Value, WritableItems vs →
    itemsToJson display fallback vs = .ok (itemsJson display vs)
  | [], _ => rfl
  | v :: vs, ⟨here, later⟩ => by
    rw [itemsToJson, toJson_of_writable v here, itemsToJson_of_writable vs later]
    rfl

theorem entriesToJson_of_writable : ∀ es : List (String × Value), WritableEntries es →
    entriesToJson display fallback es = .ok (entriesJson display es)
  | [], _ => rfl
  | (name, v) :: es, ⟨here, later⟩ => by
    rw [entriesToJson, toJson_of_writable v here, entriesToJson_of_writable es later]
    rfl

end

mutual

theorem writable_of_toJson : ∀ {v : Value} {j : Json}, v.toJson display refuse = .ok j → v.Writable
  | .none, _, _ => trivial
  | .bool _, _, _ => trivial
  | .int n, _, h => by
    rw [Value.toJson, intDigits] at h
    split at h
    · assumption
    · cases h
  | .float x, _, h => by
    rw [Value.toJson] at h
    split at h
    · assumption
    · cases h
  | .str _, _, _ => trivial
  | .list items, _, h => by
    rw [Value.toJson] at h
    cases wrote : itemsToJson display refuse items with
    | error e => rw [wrote] at h; cases h
    | ok js => exact writableItems_of_toJson wrote
  | .dict entries, _, h => by
    rw [Value.toJson] at h
    cases wrote : entriesToJson display refuse entries with
    | error e => rw [wrote] at h; cases h
    | ok js => exact writableEntries_of_toJson wrote
  | .obj _ _, _, h => by cases h

theorem writableItems_of_toJson : ∀ {vs : List Value} {js : List Json},
    itemsToJson display refuse vs = .ok js → WritableItems vs
  | [], _, _ => trivial
  | v :: vs, _, h => by
    rw [itemsToJson] at h
    obtain ⟨j, here, h⟩ := Effect.bind_ok h
    obtain ⟨js, later, -⟩ := Effect.bind_ok h
    exact ⟨writable_of_toJson here, writableItems_of_toJson later⟩

theorem writableEntries_of_toJson : ∀ {es : List (String × Value)} {js : List (List Char × Json)},
    entriesToJson display refuse es = .ok js → WritableEntries es
  | [], _, _ => trivial
  | (name, v) :: es, _, h => by
    rw [entriesToJson] at h
    obtain ⟨j, here, h⟩ := Effect.bind_ok h
    obtain ⟨js, later, -⟩ := Effect.bind_ok h
    exact ⟨writable_of_toJson here, writableEntries_of_toJson later⟩

end

variable {es : List (String × Value)}

/-- Every entry of a dictionary that can be written can be written. -/
theorem toJson_of_mem {js : List (List Char × Json)}
    (h : entriesToJson display fallback es = .ok js) {name : String} {v : Value}
    (mem : (name, v) ∈ es) : ∃ j, v.toJson display fallback = .ok j := by
  induction es generalizing js with
  | nil => cases mem
  | cons e es ih =>
    obtain ⟨j, wrote, h⟩ := Effect.bind_ok h
    obtain ⟨js, rest, -⟩ := Effect.bind_ok h
    obtain same | later := List.mem_cons.mp mem
    · cases same
      exact ⟨j, wrote⟩
    · exact ih rest later

/-- An integer in a dictionary whose canonical bytes exist can be printed. -/
theorem printable_of_canonicalContentBytes {bs : Utf8.Bytes}
    (h : canonicalContentBytes display (.dict es) = .ok bs) {name : String} {n : Int}
    (mem : (name, Value.int n) ∈ es) : Printable n := by
  rw [canonicalContentBytes, Value.toJson] at h
  cases wrote : entriesToJson display (writeText display) es with
  | error e => rw [wrote] at h; cases h
  | ok js =>
    obtain ⟨j, number⟩ := toJson_of_mem wrote mem
    rw [Value.toJson, intDigits] at number
    split at number
    · assumption
    · cases number

theorem Printable.mono {m n : Nat} (le : m ≤ n) (printable : Printable n) : Printable m :=
  (Json.length_natText_mono le).trans printable

theorem canonicalJson_of_writable {v : Value} (writable : v.Writable) :
    canonicalJson display v = .ok (Utf8.encode (v.json display).canonical) := by
  rw [canonicalJson, toJson_of_writable v writable]
  rfl

theorem canonicalContentBytes_of_writable (display : Display) {v : Value} (writable : v.Writable) :
    canonicalContentBytes display v = .ok (Utf8.encode (v.json display).canonical) := by
  rw [canonicalContentBytes, toJson_of_writable v writable]
  rfl

theorem writable_of_canonicalJson {v : Value} {bs : Utf8.Bytes}
    (h : canonicalJson display v = .ok bs) : v.Writable := by
  rw [canonicalJson] at h
  cases wrote : v.toJson display refuse with
  | error e => rw [wrote] at h; cases h
  | ok j => exact writable_of_toJson wrote

/-! ### Canonical bytes tell values apart -/

theorem sorted_eq_of_canonicalJson {v w : Value} {bs : Utf8.Bytes} (plainV : (v.json display).Plain)
    (plainW : (w.json display).Plain) (wroteV : canonicalJson display v = .ok bs)
    (wroteW : canonicalJson display w = .ok bs) :
    (v.json display).sorted = (w.json display).sorted := by
  rw [canonicalJson_of_writable (writable_of_canonicalJson wroteV)] at wroteV
  rw [canonicalJson_of_writable (writable_of_canonicalJson wroteW)] at wroteW
  have bytes := Except.ok.inj (wroteV.trans wroteW.symm)
  exact Json.sorted_eq_of_canonical plainV plainW (Utf8.encode_injective bytes)

theorem itemsJson_eq_map (vs : List Value) : itemsJson display vs = vs.map (Value.json display) := by
  induction vs with
  | nil => rfl
  | cons v vs ih => simp [itemsJson, ih]

theorem entriesJson_eq_map :
    entriesJson display es = es.map fun e => (e.1.toList, e.2.json display) := by
  induction es with
  | nil => rfl
  | cons e es ih =>
    simp [entriesJson, ih]

theorem member?_sorted_json {es : Dict} (nodup : (Assoc.keys es).Nodup) {name : String} {v : Value}
    (holds : Assoc.get name es = some v) :
    ((Value.dict es).json display).sorted.member? name.toList = some (v.json display).sorted := by
  have inj : Function.Injective String.toList := fun _ _ same => String.toList_inj.mp same
  have names : ((entriesJson display es).map Prod.fst).Nodup := by
    have images : (entriesJson display es).map Prod.fst = (Assoc.keys es).map String.toList := by
      rw [entriesJson_eq_map, Assoc.keys, List.map_map, List.map_map]
      rfl
    rw [images]
    exact nodup.map inj
  rw [Value.json, Json.member?_sorted _ names, Json.member?, entriesJson_eq_map]
  clear names nodup
  induction es with
  | nil => cases holds
  | cons e es ih =>
    obtain ⟨key, w⟩ := e
    by_cases same : key = name
    · simp only [Assoc.get, same, ↓reduceIte, Option.some.injEq] at holds
      simp [same, holds]
    · simp only [Assoc.get, if_neg same] at holds
      have other : ¬ key.toList = name.toList := fun eq => same (inj eq)
      simpa [other] using ih holds

theorem member_eq_of_sorted {es fs : Dict} (distinct : (Assoc.keys es).Nodup)
    (distinct' : (Assoc.keys fs).Nodup) {name : String} {v w : Value}
    (same : ((Value.dict es).json display).sorted = ((Value.dict fs).json display).sorted)
    (holds : Assoc.get name es = some v) (holds' : Assoc.get name fs = some w) :
    (v.json display).sorted = (w.json display).sorted := by
  have first := @member?_sorted_json display es distinct name v holds
  rw [same, member?_sorted_json distinct' holds'] at first
  exact (Option.some.inj first).symm

end Unchain.Python
