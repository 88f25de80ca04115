import Unchain.Python.Builtins

/-!
Attributes of dynamic values, and the conversions `list()` and `dict()`.

What the model cannot know about the interpreter is collected in `Env`: which
names a value's class provides besides the instance's own attributes, which
foreign classes refuse assignments and how their instances copy, and what
`dict()` makes of something that is not a dictionary. Names with two leading underscores are outside the model.
-/

namespace Unchain.Python

open Lib

structure Env where
  display : Display
  /-- Names that `hasattr` finds on the value's class. -/
  typeAttr : Value → String → Bool
  /-- Classes outside the run state whose instances refuse assignments. -/
  frozen : String → Bool
  /-- `dict(value)` for a value that is not a dictionary. -/
  dictOf : Value → Except PyError Dict
  /-- `value.copy()` for an instance of a class outside the run state. -/
  copyOf : Value → Except PyError Value

/-- `hasattr(value, name)`. -/
def hasattr (env : Env) (value : Value) (name : String) : Bool :=
  (match value with
    | .obj _ attrs => Assoc.has name attrs
    | _ => false) || env.typeAttr value name

/-- Frozen dataclasses refuse every assignment. -/
def ClassName.frozen (env : Env) : ClassName → Bool
  | .toolCall => true
  | .modelTurnResult => true
  | .other name => env.frozen name
  | _ => false

/-- `setattr(value, name, x)`; plain data has no attributes to assign. -/
def setattr (env : Env) (value : Value) (name : String) (x : Value) : Except PyError Value :=
  match value with
  | .obj cls attrs =>
    if cls.frozen env then .error (.attributeError ("cannot assign to field '" ++ name ++ "'"))
    else .ok (.obj cls (Assoc.set name x attrs))
  | _ => .error (.attributeError ("cannot assign attribute '" ++ name ++ "'"))

/-- An attribute of the instance itself. -/
def getattr (value : Value) (name : String) : Except PyError Value :=
  match value with
  | .obj _ attrs =>
    match Assoc.get name attrs with
    | some x => .ok x
    | none => .error (.attributeError ("no attribute '" ++ name ++ "'"))
  | _ => .error (.attributeError ("no attribute '" ++ name ++ "'"))

/-- The items a `for` loop visits; also `list(value)`. -/
def iterate : Value → Except PyError (List Value)
  | .list xs => .ok xs
  | .dict es => .ok (es.map fun entry => .str entry.1)
  | .str s => .ok (s.toList.map fun c => .str (String.singleton c))
  | _ => .error (.typeError "object is not iterable")

/-- `dict(value)`. -/
def toDict (env : Env) : Value → Except PyError Dict
  | .dict es => .ok es
  | v => env.dictOf v

/-- `value.update(new)`. -/
def dictUpdate (value : Value) (new : Dict) : Except PyError Value :=
  match value with
  | .dict es => .ok (.dict (Assoc.update es new))
  | _ => .error (.attributeError "object has no attribute 'update'")

/-- `value.extend(new)`. -/
def listExtend (value : Value) (new : List Value) : Except PyError Value :=
  match value with
  | .list xs => .ok (.list (xs ++ new))
  | _ => .error (.attributeError "object has no attribute 'extend'")

/-- `value[key] = x`. -/
def setItem (value : Value) (key : String) (x : Value) : Except PyError Value :=
  match value with
  | .dict es => .ok (.dict (Assoc.set key x es))
  | _ => .error (.typeError "object does not support item assignment")

/-- `isinstance(value, int)`: booleans are integers. -/
def Value.isInt : Value → Bool
  | .bool _ => true
  | .int _ => true
  | _ => false

def Value.isClass (value : Value) (cls : ClassName) : Bool :=
  match value with
  | .obj c _ => c = cls
  | _ => false

/-! ### Paths into nested dictionaries -/

def Value.getPath : Value → List String → Option Value
  | v, [] => some v
  | .dict es, key :: path => (Assoc.get key es).bind fun child => child.getPath path
  | _, _ :: _ => Option.none

/-- The dictionary stored under `key`; another value, or none, counts as empty. -/
def childDict (key : String) (root : Dict) : Dict := ((Assoc.get key root).getD .none).entries

/-- Store `value` at the end of a path. Missing children on the way, and children
that are not dictionaries, become empty dictionaries. -/
def setPath (root : Dict) : List String → Value → Dict
  | [], _ => root
  | [key], value => Assoc.set key value root
  | key :: path, value => Assoc.set key (.dict (setPath (childDict key root) path value)) root

/-- Update the dictionary at the end of a path with `new`. -/
def mergePath (root : Dict) : List String → Dict → Dict
  | [], new => Assoc.update root new
  | key :: path, new => Assoc.set key (.dict (mergePath (childDict key root) path new)) root

@[simp] theorem Value.getPath_nil (v : Value) : v.getPath [] = some v := by
  cases v <;> rfl

variable {path : List String}

theorem Value.getPath_dict (es : Dict) (key : String) :
    (Value.dict es).getPath (key :: path) = (Assoc.get key es).bind fun v => v.getPath path := rfl

/-- Two paths part: they agree up to a point and then name different keys. -/
def Part : List String → List String → Prop
  | a :: as, b :: bs => a ≠ b ∨ Part as bs
  | _, _ => False

instance decidablePart : ∀ as bs : List String, Decidable (Part as bs)
  | a :: as, b :: bs =>
    have := decidablePart as bs
    inferInstanceAs (Decidable (a ≠ b ∨ Part as bs))
  | [], _ => isFalse id
  | _ :: _, [] => isFalse id

variable {key next : String} {path : List String} {root : Dict} {v : Value}

theorem getPath_child (h : (Value.dict root).getPath (key :: next :: path) = some v) :
    (Value.dict (childDict key root)).getPath (next :: path) = some v := by
  obtain ⟨child, stored, h⟩ := Option.bind_eq_some_iff.mp h
  cases child with
  | dict es => simpa [childDict, stored] using h
  | _ => simp [Value.getPath] at h

theorem getPath_set_of_ne {other : String} (ne : other ≠ key) (x : Value) :
    (Value.dict (Assoc.set key x root)).getPath (other :: path)
      = (Value.dict root).getPath (other :: path) := by
  rw [Value.getPath_dict, Value.getPath_dict, Assoc.get_set_of_ne ne]

theorem getPath_set_self (root : Dict) (key : String) (x : Value) :
    (Value.dict (Assoc.set key x root)).getPath (key :: path) = x.getPath path := by
  rw [Value.getPath_dict, Assoc.get_set_self]
  rfl

theorem part_nil_right : ¬ Part path [] := by
  cases path <;> exact id

theorem part_of_same_head {as bs : List String} (h : Part (key :: as) (key :: bs)) :
    Part as bs := by
  rcases h with ne | part
  · exact absurd rfl ne
  · exact part

variable {x : Value}

theorem setPath_cons :
    setPath root (key :: next :: path) x
      = Assoc.set key (.dict (setPath (childDict key root) (next :: path) x)) root := by
  rw [setPath]
  simp

theorem getPath_setPath_self (root : Dict) (nonempty : path ≠ []) (x : Value) :
    (Value.dict (setPath root path x)).getPath path = some x := by
  induction path generalizing root with
  | nil => exact absurd rfl nonempty
  | cons key path ih =>
    cases path with
    | nil => rw [setPath, getPath_set_self, Value.getPath_nil]
    | cons next path =>
      rw [setPath_cons, getPath_set_self]
      exact ih _ (by simp)

theorem getPath_setPath {other : List String} (part : Part path other)
    (h : (Value.dict root).getPath other = some v) :
    (Value.dict (setPath root path x)).getPath other = some v := by
  induction path generalizing root other with
  | nil => exact h
  | cons first path ih =>
    cases other with
    | nil => exact absurd part (part_nil_right)
    | cons key other =>
      by_cases same : key = first
      · subst same
        have part := part_of_same_head part
        cases path with
        | nil => cases part
        | cons second path =>
          cases other with
          | nil => exact absurd part (part_nil_right)
          | cons next other =>
            rw [setPath_cons, getPath_set_self]
            exact ih part (getPath_child h)
      · cases path with
        | nil => rwa [setPath, getPath_set_of_ne same]
        | cons second path => rwa [setPath_cons, getPath_set_of_ne same]

/-- An update along one path leaves what is stored along a path that parts from
every key written. -/
theorem getPath_mergePath (path : List String) {other : List String} {new : Dict}
    (nonempty : new ≠ []) (part : ∀ key ∈ Assoc.keys new, Part (path ++ [key]) other)
    (h : (Value.dict root).getPath other = some v) :
    (Value.dict (mergePath root path new)).getPath other = some v := by
  obtain ⟨written, someKey⟩ : ∃ key, key ∈ Assoc.keys new := by
    obtain ⟨entry, rest, rfl⟩ := List.exists_cons_of_ne_nil nonempty
    exact ⟨entry.1, by simp [Assoc.keys]⟩
  induction path generalizing root other with
  | nil =>
    cases other with
    | nil => exact absurd (part written someKey) (part_nil_right)
    | cons key other =>
      have notWritten : key ∉ Assoc.keys new := by
        intro mem
        rcases part key mem with ne | impossible
        · exact ne rfl
        · cases impossible
      rw [Value.getPath_dict] at h ⊢
      rw [mergePath, Assoc.get_update, Assoc.get_eq_none_iff.mpr notWritten]
      simpa using h
  | cons first path ih =>
    cases other with
    | nil => exact absurd (part written someKey) (part_nil_right)
    | cons key other =>
      by_cases same : key = first
      · subst same
        have part : ∀ k ∈ Assoc.keys new, Part (path ++ [k]) other :=
          fun k mem => part_of_same_head (part k mem)
        cases other with
        | nil => exact absurd (part written someKey) (part_nil_right)
        | cons next other =>
          rw [mergePath, getPath_set_self]
          exact ih part (getPath_child h)
      · rwa [mergePath, getPath_set_of_ne same]

end Unchain.Python
