import Unchain.Python.Json
import Unchain.Lib.SortedBy
import Mathlib.Data.String.Basic

/-!
Strict JSON copies and canonical digests of the durable interactions (`_strict_json_copy`,
`_digest`), and the small checks their constructors share.

A copy is `Strict`: its floats are finite, its objects name each key once and nothing in it is
foreign. A strict value is copied as it is and is equal to itself.
-/

namespace Unchain.Interaction

open Lib Lib.Effect Python

/-- What the interactions use of the interpreter around them. -/
structure InteractionHost where
  /-- `float.__repr__`. -/
  display : Display
  /-- `hashlib.sha256(encoded).hexdigest()`. -/
  sha256 : Utf8.Bytes → String
  /-- `repr`. -/
  repr : Value → String
  /-- `type(value).__name__` of an instance. -/
  className : ClassName → String

/-- `InteractionIntegrityError`. -/
def integrityError (message : String) : PyError := .raised "InteractionIntegrityError" message

section Copy

variable (host : InteractionHost)

mutual

/-- `_strict_json_copy`. -/
def strictJsonCopy (path : String) : Value → Except PyError Value
  | .none => .ok .none
  | .bool b => .ok (.bool b)
  | .str s => .ok (.str s)
  | .int n => .ok (.int n)
  | .float x =>
    if x.isFinite then .ok (.float x)
    else .error (integrityError (path ++ " contains a non-finite number"))
  | .list items => (copyItems path 0 items).map .list
  | .dict es => (copyEntries path es []).map .dict
  | .obj cls _ =>
    .error (integrityError (path ++ " contains a non-JSON value of type " ++ host.className cls))

def copyItems (path : String) (index : Nat) : List Value → Except PyError (List Value)
  | [] => .ok []
  | v :: vs => do
    let item ← strictJsonCopy (path ++ "[" ++ toString index ++ "]") v
    let rest ← copyItems path (index + 1) vs
    return item :: rest

def copyEntries (path : String) : List (String × Value) → Dict → Except PyError Dict
  | [], copied => .ok copied
  | (key, v) :: es, copied => do
    let item ← strictJsonCopy (path ++ "." ++ key) v
    copyEntries path es (Assoc.set key item copied)

end

/-- `_digest`: the SHA-256 of the canonical JSON. -/
def digest (v : Value) : Except PyError String := do
  let copied ← strictJsonCopy host "$" v
  let encoded ← (canonicalJson host.display copied).mapError fun _ =>
    integrityError "value cannot be encoded as canonical JSON"
  return host.sha256 encoded

/-- `_required_text`. -/
def requiredText (fieldName : String) : Value → Except PyError String
  | .str s =>
    if (strip s).isEmpty then
      .error (integrityError (fieldName ++ " must be a non-empty string"))
    else .ok (strip s)
  | _ => .error (integrityError (fieldName ++ " must be a non-empty string"))

/-- `_non_negative_int`. -/
def nonNegativeInt (fieldName : String) : Value → Except PyError Int
  | .int n =>
    if n < 0 then .error (integrityError (fieldName ++ " must be a non-negative integer"))
    else .ok n
  | _ => .error (integrityError (fieldName ++ " must be a non-negative integer"))

/-- `value != 1 or isinstance(value, bool)`: what a schema version must not be. A float of the
value one passes. -/
def foreignVersion (v : Value) : Bool :=
  match v with
  | .bool _ => true
  | v => !v.eqPy (.int 1)

/-- `_validate_schema_version`. -/
def validateSchemaVersion (label : String) (v : Value) : Except PyError Unit :=
  raiseIf (foreignVersion v)
    (integrityError ("unsupported " ++ label ++ " schema_version: " ++ host.repr v))

/-- `_require_exact_fields`. -/
def requireExactFields (es : Dict) (expected : List String) (label : String) :
    Except PyError Unit :=
  let missing := sortedBy String.toList (expected.filter fun key => !Assoc.has key es)
  let unknown := sortedBy String.toList
    ((Assoc.keys es).filter fun key => decide (key ∉ expected)).dedup
  let listed (name : String) (keys : List String) : List String :=
    if keys.isEmpty then [] else [name ++ "=" ++ host.repr (.list (keys.map .str))]
  raiseIf (!(missing.isEmpty && unknown.isEmpty))
    (integrityError (label ++ " fields do not match schema: "
      ++ ", ".intercalate (listed "missing" missing ++ listed "unknown" unknown)))

end Copy

/-! ### Strict values -/

mutual

def Strict : Value → Prop
  | .float x => x.isFinite = true
  | .list items => StrictItems items
  | .dict es => (Assoc.keys es).Nodup ∧ StrictEntries es
  | .obj _ _ => False
  | _ => True

def StrictItems : List Value → Prop
  | [] => True
  | v :: vs => Strict v ∧ StrictItems vs

def StrictEntries : List (String × Value) → Prop
  | [] => True
  | (_, v) :: es => Strict v ∧ StrictEntries es

end

theorem strictItems_iff {vs : List Value} : StrictItems vs ↔ ∀ v ∈ vs, Strict v := by
  induction vs with
  | nil => simp [StrictItems]
  | cons v vs ih => simp [StrictItems, ih]

theorem strictEntries_iff {es : Dict} : StrictEntries es ↔ ∀ e ∈ es, Strict e.2 := by
  induction es with
  | nil => simp [StrictEntries]
  | cons e es ih =>
    simp [StrictEntries, ih]

@[simp] theorem strict_str (s : String) : Strict (.str s) := trivial
@[simp] theorem strict_int (n : Int) : Strict (.int n) := trivial
@[simp] theorem strict_none : Strict .none := trivial

theorem strict_dict_iff {es : Dict} :
    Strict (.dict es) ↔ (Assoc.keys es).Nodup ∧ ∀ e ∈ es, Strict e.2 := by
  rw [Strict, strictEntries_iff]

theorem strict_of_get {es : Dict} (h : Strict (.dict es)) (key : String) :
    Strict ((Assoc.get key es).getD .none) := by
  cases found : Assoc.get key es with
  | none => trivial
  | some v => exact (strict_dict_iff.mp h).2 (key, v) (Assoc.mem_of_get found)

section Copies

variable {host : InteractionHost}

mutual

theorem strictJsonCopy_of_strict : ∀ (v : Value) (path : String), Strict v →
    strictJsonCopy host path v = .ok v
  | .none, _, _ => by simp [strictJsonCopy]
  | .bool _, _, _ => by simp [strictJsonCopy]
  | .int _, _, _ => by simp [strictJsonCopy]
  | .str _, _, _ => by simp [strictJsonCopy]
  | .float _, _, h => by
    simp only [Strict] at h
    simp [strictJsonCopy, h]
  | .obj _ _, _, h => by simp [Strict] at h
  | .list items, path, h => by
    simp only [Strict] at h
    rw [strictJsonCopy, copyItems_of_strict items path 0 h]
    rfl
  | .dict es, path, h => by
    simp only [Strict] at h
    rw [strictJsonCopy, copyEntries_of_strict es path [] h.2 (by simpa using h.1)]
    rfl

theorem copyItems_of_strict : ∀ (vs : List Value) (path : String) (index : Nat), StrictItems vs →
    copyItems host path index vs = .ok vs
  | [], _, _, _ => by simp [copyItems]
  | v :: vs, path, index, h => by
    simp only [StrictItems] at h
    rw [copyItems, strictJsonCopy_of_strict v _ h.1, copyItems_of_strict vs path _ h.2]
    rfl

theorem copyEntries_of_strict : ∀ (es : List (String × Value)) (path : String) (copied : Dict),
    StrictEntries es → (Assoc.keys (copied ++ es)).Nodup →
      copyEntries host path es copied = .ok (copied ++ es)
  | [], _, copied, _, _ => by simp [copyEntries]
  | (key, v) :: es, path, copied, h, nodup => by
    simp only [StrictEntries] at h
    have fresh : key ∉ Assoc.keys copied := by
      intro mem
      simp only [Assoc.keys, List.map_append, List.map_cons] at nodup
      exact List.disjoint_of_nodup_append nodup mem (by simp)
    rw [copyEntries, strictJsonCopy_of_strict v _ h.1]
    show copyEntries host path es (Assoc.set key v copied) = _
    rw [Assoc.set_of_not_mem v fresh, copyEntries_of_strict es path _ h.2 (by simpa using nodup)]
    simp

end

mutual

theorem strict_of_strictJsonCopy : ∀ (v : Value) {path : String} {w : Value},
    strictJsonCopy host path v = .ok w → Strict w
  | .none, _, _, h => by
    cases h
    trivial
  | .bool _, _, _, h => by
    cases h
    trivial
  | .int _, _, _, h => by
    cases h
    trivial
  | .str _, _, _, h => by
    cases h
    trivial
  | .float x, _, _, h => by
    simp only [strictJsonCopy] at h
    split at h
    · next finite =>
        cases h
        exact finite
    · cases h
  | .obj _ _, _, _, h => by cases h
  | .list items, _, _, h => by
    obtain ⟨copied, copy, rfl⟩ := map_ok h
    exact strictItems_of_copy items copy
  | .dict es, _, _, h => by
    obtain ⟨copied, copy, rfl⟩ := map_ok h
    rw [Strict]
    exact strictEntries_of_copy es (by simp [Assoc.keys]) (by simp [StrictEntries]) copy

theorem strictItems_of_copy : ∀ (vs : List Value) {path : String} {index : Nat} {ws : List Value},
    copyItems host path index vs = .ok ws → StrictItems ws
  | [], _, _, _, h => by
    cases h
    trivial
  | v :: vs, _, _, _, h => by
    simp only [copyItems, bind_iff, pure_iff] at h
    obtain ⟨item, first, rest, others, rfl⟩ := h
    exact ⟨strict_of_strictJsonCopy v first, strictItems_of_copy vs others⟩

theorem strictEntries_of_copy : ∀ (es : List (String × Value)) {path : String}
    {copied out : Dict}, (Assoc.keys copied).Nodup → StrictEntries copied →
      copyEntries host path es copied = .ok out → (Assoc.keys out).Nodup ∧ StrictEntries out
  | [], _, _, _, nodup, strict, h => by
    cases h
    exact ⟨nodup, strict⟩
  | (key, v) :: es, _, copied, _, nodup, strict, h => by
    simp only [copyEntries, bind_iff] at h
    obtain ⟨item, first, rest⟩ := h
    refine strictEntries_of_copy es (Assoc.nodup_keys_set key item nodup) ?_ rest
    rw [strictEntries_iff] at strict ⊢
    intro e mem
    rcases Assoc.mem_of_mem_set mem with rfl | mem
    · exact strict_of_strictJsonCopy v first
    · exact strict e mem

end

mutual

theorem strictJsonCopy_path : ∀ (v : Value) {path : String} (other : String) {w : Value},
    strictJsonCopy host path v = .ok w → strictJsonCopy host other v = .ok w
  | .none, _, _, _, h => h
  | .bool _, _, _, _, h => h
  | .int _, _, _, _, h => h
  | .str _, _, _, _, h => h
  | .float x, _, _, _, h => by
    simp only [strictJsonCopy] at h ⊢
    split at h
    · next finite => rw [if_pos finite, h]
    · cases h
  | .obj _ _, _, _, _, h => by cases h
  | .list items, _, other, _, h => by
    obtain ⟨copied, copy, rfl⟩ := map_ok h
    rw [strictJsonCopy, copyItems_path items other copy]
    rfl
  | .dict es, _, other, _, h => by
    obtain ⟨copied, copy, rfl⟩ := map_ok h
    rw [strictJsonCopy, copyEntries_path es other copy]
    rfl

theorem copyItems_path : ∀ (vs : List Value) {path : String} (other : String) {index : Nat}
    {ws : List Value}, copyItems host path index vs = .ok ws → copyItems host other index vs = .ok ws
  | [], _, _, _, _, h => h
  | v :: vs, _, other, _, _, h => by
    simp only [copyItems, bind_iff, pure_iff] at h ⊢
    obtain ⟨item, first, rest, others, rfl⟩ := h
    exact ⟨item, strictJsonCopy_path v _ first, rest, copyItems_path vs other others, rfl⟩

theorem copyEntries_path : ∀ (es : List (String × Value)) {path : String} (other : String)
    {copied out : Dict}, copyEntries host path es copied = .ok out →
      copyEntries host other es copied = .ok out
  | [], _, _, _, _, h => h
  | (key, v) :: es, _, other, copied, _, h => by
    simp only [copyEntries, bind_iff] at h ⊢
    obtain ⟨item, first, rest⟩ := h
    exact ⟨item, strictJsonCopy_path v _ first, copyEntries_path es other rest⟩

end

theorem digest_copy {path : String} {v w : Value} (copy : strictJsonCopy host path v = .ok w) :
    digest host w = digest host v := by
  have again := @strictJsonCopy_of_strict host w "$" (strict_of_strictJsonCopy v copy)
  rw [digest, digest, again, strictJsonCopy_path v "$" copy]

end Copies

/-! ### Equality of strict values -/

theorem eq_self_of_isFinite {x : PyFloat} (h : x.isFinite = true) : x.eq x = true :=
  PyFloat.eq_self (by rintro rfl; cases h)

/-- An object equals one that holds equal values under its keys. -/
theorem eqEntries_of_get {es fs : Dict}
    (h : ∀ e ∈ es, ∃ v, Assoc.get e.1 fs = some v ∧ e.2.eqPy v = true) :
    Value.eqEntries es fs = true := by
  induction es with
  | nil => simp [Value.eqEntries]
  | cons e es ih =>
    obtain ⟨key, v⟩ := e
    obtain ⟨w, found, same⟩ := h (key, v) (by simp)
    simp only [Value.eqEntries, found, same, Bool.true_and]
    exact ih fun e mem => h e (by simp [mem])

theorem eqItems_self {vs : List Value} (h : ∀ v ∈ vs, v.eqPy v = true) :
    Value.eqItems vs vs = true := by
  induction vs with
  | nil => simp [Value.eqItems]
  | cons v vs ih =>
    simp only [Value.eqItems, h v (by simp), Bool.true_and]
    exact ih fun w mem => h w (by simp [mem])

theorem eqPy_self {v : Value} : Strict v → v.eqPy v = true := by
  induction v using Value.deepInduction with
  | none | str s => simp [Value.eqPy]
  | bool b | int n => simp [Value.eqPy, Value.numEq, Value.number?, PyFloat.ofInt, PyFloat.eq]
  | float x =>
    intro finite
    simpa [Value.eqPy, Value.numEq, Value.number?] using eq_self_of_isFinite finite
  | list items ih =>
    intro strict
    rw [Strict, strictItems_iff] at strict
    simpa [Value.eqPy] using eqItems_self fun v mem => ih v mem (strict v mem)
  | dict es ih =>
    intro strict
    obtain ⟨nodup, strict⟩ := strict_dict_iff.mp strict
    simp only [Value.eqPy, beq_self_eq_true, Bool.true_and]
    apply eqEntries_of_get
    intro e mem
    exact ⟨e.2, Assoc.get_of_mem nodup mem, ih e mem (strict e mem)⟩
  | obj cls es =>
    intro strict
    simp [Strict] at strict

end Unchain.Interaction
